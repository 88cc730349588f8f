import CSymbols.Proofs.PrintedSpelling

/-! How a spelling is laid out: the declarator groups that it opens, the text of the return type in
front of the parameter list, the list itself and what follows it. Where each part begins is said by
the parentheses alone, and splitting finds just these parts. -/
namespace CSymbols.Spelling

/-- A text in which every parenthesis outside of angle brackets is the closed operand of a type
operator, and the number of angle brackets left open in it. Operands do not count for it. -/
inductive Skipped : List Char → Nat → Prop
  | nil : Skipped [] 0
  | char {text : List Char} {angle : Nat} {c : Char} (h : Skipped text angle)
      (hc : ¬(c = '(' ∧ angle = 0)) : Skipped (text ++ [c]) (angleAfter angle c)
  | operand {text inner : List Char} (h : Skipped text 0) (ho : lastWord text ∈ typeOperators)
      (hi : Balanced inner) : Skipped (text ++ '(' :: (inner ++ [')'])) 0

/-- A text in front of the first parenthesis that is not skipped. -/
structure Leads (before : List Char) : Prop where
  skipped : Skipped before 0
  noOperator : lastWord before ∉ typeOperators

theorem Passed.skipped {text : List Char} {angle : Nat} (h : Passed text angle) :
    Skipped text angle := by
  induction h with
  | nil => exact .nil
  | char _ hc ih => exact .char ih hc
  | operand _ _ ho hi ih => exact .operand ih ho hi

theorem Opens.leads {before : List Char} (h : Opens before) : Leads before :=
  ⟨h.passed.skipped, h.noOperator⟩

/-- A skipped text is passed by the search, unless the search is cut at one of its operands. -/
theorem Skipped.passed_or_cut {text : List Char} {angle : Nat} (h : Skipped text angle) :
    Passed text angle ∨ ∃ c, ∀ rest, Cut (text ++ rest) c := by
  induction h with
  | nil => exact .inl .nil
  | @char text angle c _ hc ih =>
    rcases ih with hp | ⟨d, hd⟩
    · exact .inl (hp.char hc)
    · refine .inr ⟨d, fun rest => ?_⟩
      rw [List.append_assoc]
      exact hd _
  | @operand text inner _ ho hi ih =>
    rcases ih with hp | ⟨d, hd⟩
    · by_cases hw : ∃ c ∈ edge? text, Wide c
      · obtain ⟨c, he, hc⟩ := hw
        refine .inr ⟨c, fun rest => ?_⟩
        rw [List.append_assoc]
        exact .here hp he hc
      · exact .inl (hp.operand (fun c hc hwc => hw ⟨c, hc, hwc⟩) ho hi)
    · refine .inr ⟨d, fun rest => ?_⟩
      rw [List.append_assoc]
      exact hd _

theorem Leads.opens_or_cut {before : List Char} (h : Leads before) :
    Opens before ∨ ∃ c, ∀ rest, Cut (before ++ '(' :: rest) c := by
  rcases h.skipped.passed_or_cut with hp | ⟨c, hc⟩
  · by_cases hw : ∃ c ∈ edge? before, Wide c
    · obtain ⟨c, he, hc⟩ := hw
      exact .inr ⟨c, fun rest => .here hp he hc⟩
    · exact .inl ⟨hp, fun c hc hwc => hw ⟨c, hc, hwc⟩, h.noOperator⟩
  · exact .inr ⟨c, fun rest => hc _⟩

/-- What stands between two parentheses is a declarator group. -/
def IsGroup (inner : List Char) : Prop := ∃ c ∈ (Text.trimStart inner).head?, isPointerMark c = true

theorem isGroup_iff {inner : List Char} :
    IsGroup inner ↔ (Text.trimStart inner).head?.any isPointerMark = true := by
  unfold IsGroup
  rw [Option.any_eq_true]
  simp only [Option.mem_def]

/-- The parts of a spelling. A group has a text in front of it and one behind it; the groups stand
from the outermost to the one that holds the parameter list. -/
structure Layout where
  groups : List (List Char × List Char)
  before : List Char
  parameters : List Char
  trailing : List Char
  deriving DecidableEq

namespace Layout

/-- A text with the groups around it. -/
def around (l : Layout) (core : List Char) : List Char :=
  l.groups.foldr (fun g inner => g.1 ++ '(' :: (inner ++ ')' :: g.2)) core

/-- What is left without the parameter list, the blanks in front of it and what follows it. -/
def returned (l : Layout) : List Char := l.around (Text.trimEnd l.before)

/-- The return type that the parts stand for. The text that is left may leave it to an arrow. -/
def Returns (l : Layout) (t : List Char) : Prop :=
  (Text.trim l.returned = "auto".toList ∧ ArrowType l.trailing t) ∨
    (t = Text.trim l.returned ∧ ¬(t = "auto".toList ∧ ∃ arrow, ArrowType l.trailing arrow))

def stripped (l : Layout) : Stripped := ⟨l.returned, l.parameters, l.trailing⟩

def inside (before behind : List Char) (l : Layout) : Layout :=
  { l with groups := (before, behind) :: l.groups }

theorem stripped_inside (before behind : List Char) (l : Layout) :
    (l.inside before behind).stripped =
      { l.stripped with returned := before ++ '(' :: (l.returned ++ ')' :: behind) } := rfl

/-- The groups put one text in front of what they hold, and one behind it. -/
theorem exists_around (l : Layout) :
    ∃ front back, ∀ core, l.around core = front ++ (core ++ back) := by
  unfold around
  induction l.groups with
  | nil => exact ⟨[], [], fun core => by simp⟩
  | cons g groups ih =>
    obtain ⟨front, back, h⟩ := ih
    refine ⟨g.1 ++ '(' :: front, back ++ ')' :: g.2, fun core => ?_⟩
    rw [List.foldr_cons, h]
    simp

end Layout

/-- A spelling divides into these parts. At every level the parenthesis is the first one that is not
skipped, and its partner closes a group or else the parameter list. -/
inductive Divides : List Char → Layout → Prop
  | list {before parameters trailing : List Char} (hb : Leads before) (hp : Balanced parameters)
      (hg : ¬IsGroup parameters) :
      Divides (before ++ '(' :: (parameters ++ ')' :: trailing)) ⟨[], before, parameters, trailing⟩
  | group {before inner behind : List Char} {l : Layout} (hb : Leads before) (hi : Balanced inner)
      (hg : IsGroup inner) (h : Divides inner l) :
      Divides (before ++ '(' :: (inner ++ ')' :: behind)) (l.inside before behind)

theorem Opens.strip_list {before parameters : List Char} (h : Opens before)
    (hp : Balanced parameters) (hg : ¬IsGroup parameters) (trailing : List Char) :
    Spelling.strip (before ++ '(' :: (parameters ++ ')' :: trailing)) =
      .ok (some ⟨Text.trimEnd before, parameters, trailing⟩) := by
  rw [h.strip hp, if_neg fun hm => hg (isGroup_iff.2 hm)]

theorem Opens.strip_inner {before inner : List Char} (h : Opens before) (hi : Balanced inner)
    (hg : IsGroup inner) {s : Stripped} (hs : Spelling.strip inner = .ok (some s))
    (behind : List Char) : Spelling.strip (before ++ '(' :: (inner ++ ')' :: behind)) =
      .ok (some { s with returned := before ++ '(' :: (s.returned ++ ')' :: behind) }) := by
  rw [h.strip hi, if_pos (isGroup_iff.1 hg), hs]
  simp [Except.map]

theorem Leads.opens {before rest : List Char} (h : Leads before)
    (hc : ∀ c, ¬Cut (before ++ '(' :: rest) c) : Opens before := by
  rcases h.opens_or_cut with ho | ⟨c, hcut⟩
  · exact ho
  · exact absurd (hcut rest) (hc c)

/-- What stands in a group is not cut if the group is not. -/
theorem Leads.not_cut_inner {before inner behind : List Char} (h : Leads before)
    (hi : Balanced inner) (hg : IsGroup inner)
    (hc : ∀ c, ¬Cut (before ++ '(' :: (inner ++ ')' :: behind)) c) : ∀ c, ¬Cut inner c := by
  intro c hcut
  have ho := h.opens hc
  exact hc c (.group ho.passed ho.narrow ho.noOperator hi (isGroup_iff.1 hg) hcut)

theorem Divides.strip {spelling : List Char} {l : Layout} (h : Divides spelling l)
    (hc : ∀ c, ¬Cut spelling c) : Spelling.strip spelling = .ok (some l.stripped) := by
  induction h with
  | list hb hp hg => exact (hb.opens hc).strip_list hp hg _
  | group hb hi hg h ih => exact (hb.opens hc).strip_inner hi hg (ih (hb.not_cut_inner hi hg hc)) _

theorem opens_of_openingParenthesis {spelling before rest : List Char}
    (h : openingParenthesis 0 0 [] spelling = .ok (some (before, rest))) :
    Opens before ∧ spelling = before ++ '(' :: rest := by
  have hend := openingParenthesis_end spelling
  rw [h] at hend
  cases hend with
  | found hs hp he ho => exact ⟨⟨hp, he, ho⟩, hs⟩

theorem exists_divides {spelling : List Char} {s : Stripped}
    (h : strip spelling = .ok (some s)) : ∃ l, Divides spelling l ∧ l.stripped = s := by
  fun_induction strip spelling generalizing s with
  | case6 spelling before rest hopen inner trailing hclose hm s' hs ih =>
    -- The parenthesis opens a group, and the list is inside of it.
    obtain ⟨ho, rfl⟩ := opens_of_openingParenthesis hopen
    obtain ⟨hi, rfl⟩ := closingParenthesis_eq_some_iff.1 hclose
    obtain ⟨l, hl, rfl⟩ := ih hs
    refine ⟨l.inside before trailing, .group ho.leads hi (isGroup_iff.2 hm) hl, ?_⟩
    rw [Layout.stripped_inside]
    simpa [Layout.stripped] using h
  | case7 spelling before rest hopen inner trailing hclose hm =>
    obtain ⟨ho, rfl⟩ := opens_of_openingParenthesis hopen
    obtain ⟨hi, rfl⟩ := closingParenthesis_eq_some_iff.1 hclose
    refine ⟨⟨[], before, inner, trailing⟩,
      .list ho.leads hi fun hg => hm (isGroup_iff.1 hg), ?_⟩
    simpa [Layout.stripped, Layout.returned, Layout.around] using h
  | _ => simp at h

/-- The first parenthesis that is not skipped and its partner are at one place only. -/
theorem Opens.unique {before before' inner inner' behind behind' : List Char}
    (h : Opens before) (h' : Opens before') (hi : Balanced inner) (hi' : Balanced inner')
    (he : before ++ '(' :: (inner ++ ')' :: behind) =
      before' ++ '(' :: (inner' ++ ')' :: behind')) :
    before = before' ∧ inner = inner' ∧ behind = behind' := by
  have hopen := h.openingParenthesis (inner ++ ')' :: behind)
  rw [he, h'.openingParenthesis] at hopen
  obtain ⟨rfl, hrest⟩ : before' = before ∧ inner' ++ ')' :: behind' = inner ++ ')' :: behind := by
    simpa using hopen
  have hclose := closingParenthesis_eq_some_iff.2 ⟨hi', hrest.symm⟩
  rw [closingParenthesis_eq_some_iff.2 ⟨hi, rfl⟩] at hclose
  obtain ⟨rfl, rfl⟩ : inner = inner' ∧ behind = behind' := by simpa using hclose
  exact ⟨rfl, rfl, rfl⟩

theorem Divides.unique {spelling : List Char} {l l' : Layout} (h : Divides spelling l)
    (h' : Divides spelling l') (hc : ∀ c, ¬Cut spelling c) : l = l' := by
  induction h generalizing l' with
  | @list before parameters trailing hb hp hg =>
    have ho := hb.opens hc
    generalize he : before ++ '(' :: (parameters ++ ')' :: trailing) = spelling at h' hc
    cases h' with
    | list hb' hp' hg' =>
      obtain ⟨rfl, rfl, rfl⟩ := ho.unique (hb'.opens hc) hp hp' he
      rfl
    | group hb' hi' hg' h' =>
      obtain ⟨rfl, rfl, rfl⟩ := ho.unique (hb'.opens hc) hp hi' he
      exact absurd hg' hg
  | @group before inner behind l hb hi hg h ih =>
    have ho := hb.opens hc
    have hinner := hb.not_cut_inner hi hg hc
    generalize he : before ++ '(' :: (inner ++ ')' :: behind) = spelling at h' hc
    cases h' with
    | list hb' hp' hg' =>
      obtain ⟨rfl, rfl, rfl⟩ := ho.unique (hb'.opens hc) hi hp' he
      exact absurd hg hg'
    | group hb' hi' hg' h' =>
      obtain ⟨rfl, rfl, rfl⟩ := ho.unique (hb'.opens hc) hi hi' he
      rw [ih h' hinner]

/-- A spelling is its parts, put together. -/
theorem Divides.eq_around {spelling : List Char} {l : Layout} (h : Divides spelling l) :
    spelling = l.around (l.before ++ '(' :: (l.parameters ++ ')' :: l.trailing)) := by
  induction h with
  | list hb hp hg => rfl
  | @group before inner behind l hb hi hg h ih =>
    show _ = before ++ '(' :: (l.around (l.before ++ '(' :: (l.parameters ++ ')' :: l.trailing)) ++
      ')' :: behind)
    rw [← ih]

/-- What is left of a spelling has all of it but for the parameter list, the blanks in front of it
and what follows it. -/
theorem Divides.exists_returned {spelling : List Char} {l : Layout} (h : Divides spelling l) :
    ∃ front blanks back, Text.Blank blanks ∧ l.returned = front ++ back ∧
      spelling = front ++ blanks ++ '(' :: (l.parameters ++ ')' :: l.trailing) ++ back := by
  obtain ⟨front, back, haround⟩ := l.exists_around
  obtain ⟨blanks, hblanks, hbefore, -⟩ := Text.exists_trimEnd l.before
  refine ⟨front ++ Text.trimEnd l.before, blanks, back, hblanks, ?_, ?_⟩
  · rw [Layout.returned, haround, List.append_assoc]
  · rw [h.eq_around, haround]
    nth_rewrite 1 [hbefore]
    simp

namespace Layout

theorem returns_iff {l : Layout} {t : List Char} : l.Returns t ↔ t = returnType l.stripped := by
  unfold Returns returnType stripped
  simp only [← trailingReturnType_eq_some_iff, beq_iff_eq]
  by_cases hauto : Text.trim l.returned = "auto".toList
  · cases hr : trailingReturnType l.trailing with
    | none => simp [hauto]
    | some arrow => simp [hauto, eq_comm]
  · rw [if_neg hauto]
    constructor
    · rintro (⟨h, -⟩ | ⟨h, -⟩)
      · exact absurd h hauto
      · exact h
    · rintro rfl
      exact .inr ⟨rfl, fun h => hauto h.1⟩

theorem returnType_eq_nil_iff {l : Layout} :
    returnType l.stripped = [] ↔ Text.Blank l.returned := by
  rw [eq_comm, ← returns_iff, ← Text.trim_eq_nil_iff]
  unfold Returns
  constructor
  · rintro (⟨-, h, -⟩ | ⟨h, -⟩)
    · exact absurd rfl h
    · exact h.symm
  · intro h
    exact .inr ⟨h.symm, fun hauto => absurd hauto.1 (by decide)⟩

/-- The signature that the parts stand for. -/
def signature (l : Layout) : Signature :=
  ⟨String.ofList (returnType l.stripped), splitParameterList (String.ofList l.parameters)⟩

end Layout

theorem Divides.splitFunctionType {q : String} {l : Layout}
    (h : Divides (Text.trim q.toList) l) (hc : ¬IsCut q) :
    Spelling.splitFunctionType q =
      .ok (if Text.Blank l.returned then none else some l.signature) := by
  have hstrip := h.strip fun c hcut => hc ⟨c, hcut⟩
  unfold Spelling.splitFunctionType Spelling.signature
  rw [hstrip]
  simp only [beq_iff_eq, Layout.returnType_eq_nil_iff]
  split
  · rfl
  · simp [Layout.signature, splitParameterList, Layout.stripped]

/-- A spelling whose parameter list stands in no group. -/
def plainSpelling (before parameters trailing : List Char) : String :=
  String.ofList (before ++ '(' :: (parameters ++ ')' :: trailing))

theorem trim_plainSpelling {before : List Char}
    (hfirst : ∃ c ∈ before.head?, Text.isBlank c = false) (parameters trailing : List Char) :
    Text.trim (plainSpelling before parameters trailing).toList =
      before ++ '(' :: (parameters ++ ')' :: Text.trimEnd trailing) := by
  obtain ⟨c, hc, hblank⟩ := hfirst
  obtain ⟨blanks, hblanks, htrailing, hlast⟩ := Text.exists_trimEnd trailing
  have hend : before ++ '(' :: (parameters ++ ')' :: Text.trimEnd trailing) =
      before ++ '(' :: parameters ++ ')' :: Text.trimEnd trailing := by
    simp
  rw [plainSpelling, String.toList_ofList, Text.trim_eq_iff]
  refine ⟨[], blanks, by simp [Text.Blank], hblanks, ?_, ?_, ?_⟩
  · nth_rewrite 1 [htrailing]
    simp
  · intro d hd
    obtain rfl : c = d := Option.some.inj
      ((List.mem_head?_append_of_mem_head? hc : c ∈ (before ++ _).head?).symm.trans hd)
    exact hblank
  · intro d hd
    rw [hend, List.getLast?_append_of_ne_nil _ (by simp)] at hd
    exact (bare_closed hlast).last d hd

/-- Without a group the parts can be named outright. Whether such a spelling is cut is decided in
front of the parameter list. -/
theorem Leads.splitFunctionType {before : List Char} (h : Leads before)
    (hfirst : ∃ c ∈ before.head?, Text.isBlank c = false) :
    (∃ fault, ∀ parameters trailing,
      Spelling.splitFunctionType (plainSpelling before parameters trailing) = .error fault) ∨
    ∀ parameters trailing, Balanced parameters → ¬IsGroup parameters →
      Spelling.splitFunctionType (plainSpelling before parameters trailing) =
        .ok (some ⟨String.ofList (returnType ⟨Text.trimEnd before, parameters, trailing⟩),
          (parameterTypes parameters).map String.ofList⟩) := by
  rcases h.opens_or_cut with ho | ⟨c, hcut⟩
  · refine .inr fun parameters trailing hp hg => ?_
    have htrailing : returnType ⟨Text.trimEnd before, parameters, Text.trimEnd trailing⟩ =
        returnType ⟨Text.trimEnd before, parameters, trailing⟩ := by
      simp only [returnType, trailingReturnType_trimEnd]
    have hvisible : returnType ⟨Text.trimEnd before, parameters, trailing⟩ ≠ [] := by
      intro hnil
      have hblank : Text.Blank (Text.trimEnd before) :=
        (Layout.returnType_eq_nil_iff (l := ⟨[], before, parameters, trailing⟩)).1 hnil
      obtain ⟨blanks, hblanks, hbefore, -⟩ := Text.exists_trimEnd before
      obtain ⟨c, hc, hvisible⟩ := hfirst
      have hmem : c ∈ Text.trimEnd before ++ blanks := hbefore ▸ List.mem_of_head? hc
      have hcblank : Text.isBlank c = true := (List.mem_append.1 hmem).elim (hblank c) (hblanks c)
      simp [hvisible] at hcblank
    unfold Spelling.splitFunctionType Spelling.signature
    rw [trim_plainSpelling hfirst, ho.strip_list hp hg]
    simp [htrailing, hvisible]
  · refine .inl ⟨.cutInside c, fun parameters trailing => ?_⟩
    have hstrip := strip_eq_error_iff.2 ⟨c, rfl, hcut (parameters ++ ')' :: Text.trimEnd trailing)⟩
    unfold Spelling.splitFunctionType Spelling.signature
    rw [trim_plainSpelling hfirst, hstrip]

theorem exists_divides_of_splitFunctionType {q : String} {s : Signature}
    (h : splitFunctionType q = .ok (some s)) : ∃ l, Divides (Text.trim q.toList) l := by
  unfold splitFunctionType signature at h
  cases hs : strip (Text.trim q.toList) with
  | error fault => simp [hs] at h
  | ok s' =>
    cases s' with
    | none => simp [hs] at h
    | some s' =>
      obtain ⟨l, hl, -⟩ := exists_divides hs
      exact ⟨l, hl⟩

/-- A spelling that is not cut has a signature just if it divides into parts that leave something of
it. There is at most one such division, and the signature is read off its parts: nothing of the
spelling is lost but for the list's margin and what follows the list. -/
theorem splitFunctionType_eq_some_iff_divides (q : String)
    (h : ∀ fault, splitFunctionType q ≠ .error fault) :
    ((∃ s, splitFunctionType q = .ok (some s)) ↔
      ∃ l, Divides (Text.trim q.toList) l ∧ ¬Text.Blank l.returned) ∧
    (∀ l l', Divides (Text.trim q.toList) l → Divides (Text.trim q.toList) l' → l = l') ∧
    ∀ l s, Divides (Text.trim q.toList) l → splitFunctionType q = .ok (some s) →
      s.parameterTypes = splitParameterList (String.ofList l.parameters) ∧
      l.Returns s.returnType.toList ∧
      ∃ front blanks back, Text.Blank blanks ∧ l.returned = front ++ back ∧
        Text.trim q.toList =
          front ++ blanks ++ '(' :: (l.parameters ++ ')' :: l.trailing) ++ back := by
  have hc : ¬IsCut q := by
    intro hcut
    obtain ⟨fault, hfault⟩ := splitFunctionType_error_iff.2 hcut
    exact h fault hfault
  refine ⟨⟨?_, ?_⟩, ?_, ?_⟩
  · rintro ⟨s, hs⟩
    obtain ⟨l, hl⟩ := exists_divides_of_splitFunctionType hs
    refine ⟨l, hl, fun hb => ?_⟩
    rw [hl.splitFunctionType hc, if_pos hb] at hs
    simp at hs
  · rintro ⟨l, hl, hb⟩
    refine ⟨l.signature, ?_⟩
    rw [hl.splitFunctionType hc, if_neg hb]
  · intro l l' hl hl'
    exact hl.unique hl' fun c hcut => hc ⟨c, hcut⟩
  · intro l s hl hs
    rw [hl.splitFunctionType hc] at hs
    have hsig : l.signature = s := by
      split at hs
      · simp at hs
      · simpa using hs
    subst hsig
    refine ⟨rfl, ?_, hl.exists_returned⟩
    rw [Layout.returns_iff, Layout.signature, String.toList_ofList]

/-- The parts of a function that returns a pointer to arrays. -/
def pointerLayout : Layout where
  groups := [("decltype(x) ".toList, "[3]".toList)]
  before := "* ".toList
  parameters := "int, ...".toList
  trailing := " const".toList

theorem divides_pointerLayout :
    Divides (Text.trim " decltype(x) (* (int, ...) const)[3]".toList) pointerLayout := by
  have hword : Passed ([] ++ "decltype".toList) 0 := Passed.nil.append_plain (by decide)
  have hx : Balanced ['x'] := .char (by decide) (by decide) .nil
  have hbase : Passed ("decltype".toList ++ '(' :: (['x'] ++ [')']) ++ [' ']) 0 :=
    (hword.operand (by decide) (by decide) hx).append_plain (by decide)
  have hpointer : Passed ([] ++ "* ".toList) 0 := Passed.nil.append_plain (by decide)
  have hlist : Balanced "int, ...".toList := balanced_of_plain (by decide)
  have hconst : Balanced " const".toList := balanced_of_plain (by decide)
  have hinner : Balanced ("* ".toList ++ '(' :: ("int, ...".toList ++ ')' :: " const".toList)) :=
    (balanced_of_plain (by decide)).append (.group hlist hconst)
  have hunmarked : ¬IsGroup "int, ...".toList := by
    rw [isGroup_iff]
    decide
  have hmarked : IsGroup ("* ".toList ++ '(' :: ("int, ...".toList ++ ')' :: " const".toList)) := by
    rw [isGroup_iff]
    decide
  have hsplit : Text.trim " decltype(x) (* (int, ...) const)[3]".toList =
      "decltype".toList ++ '(' :: (['x'] ++ [')']) ++ [' '] ++
        '(' :: ("* ".toList ++ '(' :: ("int, ...".toList ++ ')' :: " const".toList) ++
          ')' :: "[3]".toList) := by
    decide +kernel
  rw [hsplit]
  exact .group ⟨hbase.skipped, by decide⟩ hinner hmarked
    (.list ⟨hpointer.skipped, by decide⟩ hlist hunmarked)

theorem splitFunctionType_pointerLayout :
    splitFunctionType " decltype(x) (* (int, ...) const)[3]" =
        .ok (some ⟨"decltype(x) (*)[3]", ["int"]⟩) ∧
      (∃ l, Divides (Text.trim " decltype(x) (* (int, ...) const)[3]".toList) l ∧
        ¬Text.Blank l.returned) ∧
      (∀ l, Divides (Text.trim " decltype(x) (* (int, ...) const)[3]".toList) l →
        l = pointerLayout) ∧
      pointerLayout.Returns "decltype(x) (*)[3]".toList := by
  have hsplit : splitFunctionType " decltype(x) (* (int, ...) const)[3]" =
      .ok (some ⟨"decltype(x) (*)[3]", ["int"]⟩) := by
    decide +kernel
  obtain ⟨hiff, hunique, hparts⟩ := splitFunctionType_eq_some_iff_divides
    " decltype(x) (* (int, ...) const)[3]" (by simp [hsplit])
  exact ⟨hsplit, hiff.1 ⟨_, hsplit⟩, fun l hl => hunique l _ hl divides_pointerLayout,
    (hparts _ _ divides_pointerLayout hsplit).2.1⟩

end CSymbols.Spelling

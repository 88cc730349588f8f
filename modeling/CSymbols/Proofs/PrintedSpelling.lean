import CSymbols.Proofs.CutSpelling
import CSymbols.Proofs.ParameterPieces

/-! Function types that are put together from their parts, with the parameter list inside any number
of declarator groups: splitting such a spelling gives the parts back. -/
namespace CSymbols.Spelling

instance (c : Char) : Decidable (Wide c) := inferInstanceAs (Decidable (1 < c.utf8Size))

theorem not_wide_of_isWordChar {c : Char} (h : Text.isWordChar c = true) : ¬Wide c := by
  have halpha : c.isAlpha = (decide (c.val ≥ 'A'.val ∧ c.val ≤ 'Z'.val) ||
      (decide (c.val ≥ 'a'.val) && decide (c.val ≤ 'z'.val))) := rfl
  have hle : c.val ≤ 0x7f := by
    simp only [Text.isWordChar, Char.isAlphanum, halpha, Char.isDigit, Bool.or_eq_true,
      Bool.and_eq_true, decide_eq_true_eq, beq_iff_eq, UInt32.le_iff_toNat_le, ge_iff_le] at h ⊢
    rcases h with h | rfl
    · simp at h ⊢
      omega
    · decide
  unfold Wide Char.utf8Size
  simp [hle]

/-- A text behind which a parenthesis opens a parameter list or a declarator group. -/
structure Opens (before : List Char) : Prop where
  passed : Passed before 0
  narrow : ∀ c ∈ edge? before, ¬Wide c
  noOperator : lastWord before ∉ typeOperators

theorem Passed.append_plain {text cs : List Char} {angle : Nat} (h : Passed text angle)
    (hcs : ∀ c ∈ cs, c ≠ '(' ∧ c ≠ '<' ∧ c ≠ '>') : Passed (text ++ cs) angle := by
  induction cs generalizing text with
  | nil => rwa [List.append_nil]
  | cons c cs ih =>
    obtain ⟨ho, hl, hg⟩ := hcs c List.mem_cons_self
    have hangle : angleAfter angle c = angle := by simp [angleAfter, hl, hg]
    have hc : Passed (text ++ [c]) angle := by
      have hstep : Passed (text ++ [c]) (angleAfter angle c) := h.char (by simp [ho])
      rwa [hangle] at hstep
    have hrest := ih hc fun c hc => hcs c (List.mem_cons_of_mem _ hc)
    rwa [List.append_assoc] at hrest

theorem Opens.append_blank {before gap : List Char} (h : Opens before) (hgap : Text.Blank gap) :
    Opens (before ++ gap) := by
  have hplain : ∀ c ∈ gap, c ≠ '(' ∧ c ≠ '<' ∧ c ≠ '>' := by
    intro c hc
    have hblank := hgap c hc
    refine ⟨?_, ?_, ?_⟩ <;> rintro rfl <;> exact absurd hblank (by decide)
  refine ⟨h.passed.append_plain hplain, ?_, ?_⟩
  · have hedge : edge? (before ++ gap) = edge? before := by
      unfold edge?
      rw [Text.trimEnd_append hgap]
    rw [hedge]
    exact h.narrow
  · have hword : lastWord (before ++ gap) = lastWord before := by
      unfold lastWord
      rw [Text.trimEnd_append hgap]
    rw [hword]
    exact h.noOperator

theorem Opens.openingParenthesis {before : List Char} (h : Opens before) (rest : List Char) :
    Spelling.openingParenthesis 0 0 [] (before ++ '(' :: rest) = .ok (some (before, rest)) := by
  rw [h.passed.openingParenthesis, openingParenthesis_found h.narrow h.noOperator]

/-- One level of a spelling: the parenthesis opens the parameter list, or a group that holds it. -/
theorem Opens.strip {before inner : List Char} (h : Opens before) (hi : Balanced inner)
    (trailing : List Char) : Spelling.strip (before ++ '(' :: (inner ++ ')' :: trailing)) =
      if (Text.trimStart inner).head?.any isPointerMark then
        (Spelling.strip inner).map fun s => s.map fun s =>
          { s with returned := before ++ '(' :: s.returned ++ ')' :: trailing }
      else .ok (some ⟨Text.trimEnd before, inner, trailing⟩) := by
  have hopen := h.openingParenthesis (inner ++ ')' :: trailing)
  have hclose := closingParenthesis_eq_some_iff.2 ⟨hi, (rfl : inner ++ ')' :: trailing = _)⟩
  rw [Spelling.strip]
  split
  · simp_all
  · simp_all
  · rename_i front rest hfound
    obtain ⟨rfl, rfl⟩ : front = before ∧ rest = inner ++ ')' :: trailing := by
      simpa [hopen, eq_comm] using hfound
    split
    · simp_all
    · rename_i inner' trailing' hfound'
      obtain ⟨rfl, rfl⟩ : inner' = inner ∧ trailing' = trailing := by
        simpa [hclose, eq_comm] using hfound'
      congr 1
      cases Spelling.strip inner' with
      | error fault => rfl
      | ok s => cases s <;> rfl

/-- The spelling in front of the declarators of a function type. Its parentheses are inside template
arguments or belong to type operators. -/
structure BaseSpelling where
  text : List Char
  ne_nil : text ≠ []
  bare : Text.Bare text
  passed : Passed text 0
  noOperator : lastWord text ∉ typeOperators
  narrow : ∀ c ∈ text, ¬Wide c

theorem BaseSpelling.opens (b : BaseSpelling) : Opens b.text :=
  ⟨b.passed, fun _ hc => b.narrow _ (mem_of_edge? hc), b.noOperator⟩

/-- A declarator group: the pointer, which what is declared follows, and what stands behind the
group, such as a parameter list or the bounds of an array. -/
structure DeclaratorGroup where
  pointer : List Char
  suffix : List Char
  marked : ∃ c ∈ pointer.head?, isPointerMark c = true
  plain : ∀ c ∈ pointer, isPointerMark c = true ∨ c = ' ' ∨ Text.isWordChar c = true
  noOperator : lastWord pointer ∉ typeOperators
  balanced : Balanced suffix
  bare : Text.Bare suffix

namespace DeclaratorGroup

/-- The group around a declarator. -/
def around (g : DeclaratorGroup) (declarator : List Char) : List Char :=
  '(' :: (g.pointer ++ declarator ++ ')' :: g.suffix)

/-- The group around nothing. -/
def closed (g : DeclaratorGroup) : List Char :=
  '(' :: (Text.trimEnd g.pointer ++ ')' :: g.suffix)

theorem plain_ne {c d : Char} (h : isPointerMark c = true ∨ c = ' ' ∨ Text.isWordChar c = true)
    (hd : (isPointerMark d || d == ' ' || Text.isWordChar d) = false) : c ≠ d := by
  rintro rfl
  simp only [Bool.or_eq_false_iff, beq_eq_false_iff_ne] at hd
  simp [hd] at h

theorem opens (g : DeclaratorGroup) : Opens g.pointer := by
  have hpassed : Passed ([] ++ g.pointer) 0 := by
    apply Passed.nil.append_plain
    intro c hc
    have hplain := g.plain c hc
    exact ⟨plain_ne hplain (by decide), plain_ne hplain (by decide), plain_ne hplain (by decide)⟩
  refine ⟨hpassed, ?_, g.noOperator⟩
  intro c hc
  rcases g.plain c (mem_of_edge? hc) with hmark | rfl | hword
  · simp only [isPointerMark, Bool.or_eq_true, beq_iff_eq] at hmark
    rcases hmark with (rfl | rfl) | rfl <;> decide
  · decide
  · exact not_wide_of_isWordChar hword

theorem balanced_pointer (g : DeclaratorGroup) : Balanced g.pointer := by
  apply balanced_of_plain
  intro c hc
  have hplain := g.plain c hc
  exact ⟨plain_ne hplain (by decide), plain_ne hplain (by decide)⟩

theorem marked_pointer (g : DeclaratorGroup) (declarator : List Char) :
    (Text.trimStart (g.pointer ++ declarator)).head?.any isPointerMark = true := by
  obtain ⟨c, hc, hmark⟩ := g.marked
  have hhead : (g.pointer ++ declarator).head? = some c := List.mem_head?_append_of_mem_head? hc
  have hblank : Text.isBlank c = false := by
    simp only [isPointerMark, Bool.or_eq_true, beq_iff_eq] at hmark
    rcases hmark with (rfl | rfl) | rfl <;> decide
  have hstart : Text.trimStart (g.pointer ++ declarator) = g.pointer ++ declarator := by
    apply Text.trimStart_of_first
    intro d hd
    obtain rfl := Option.some.inj (hhead.symm.trans hd)
    exact hblank
  rw [hstart, hhead]
  exact hmark

end DeclaratorGroup

/-- What declarators leave when the parameter list inside is taken out. The blanks in front of the
list go with it. -/
def withoutList : List DeclaratorGroup → List Char
  | [] => []
  | [g] => g.closed
  | g :: groups => g.around (withoutList groups)

/-- The parts of a function type. The groups stand from the outermost to the one that holds the
parameter list. -/
structure FunctionSpelling where
  base : BaseSpelling
  gap : List Char
  blank : Text.Blank gap
  groups : List DeclaratorGroup
  list : ParameterText
  qualifiers : List Char
  balanced : Balanced qualifiers

/-- The type behind the first arrow of a text, which is not blank. -/
def ArrowType (text t : List Char) : Prop :=
  t ≠ [] ∧ ∃ front rest, text = front ++ '-' :: '>' :: rest ∧ ¬['-', '>'] <:+: front ∧
    Text.trim rest = t

theorem afterArrow_eq_some_iff {text rest : List Char} : afterArrow text = some rest ↔
    ∃ front, text = front ++ '-' :: '>' :: rest ∧ ¬['-', '>'] <:+: front := by
  fun_induction afterArrow text with
  | case1 behind =>
    rw [Option.some.injEq]
    constructor
    · rintro rfl
      exact ⟨[], rfl, by simp⟩
    · rintro ⟨front, he, hf⟩
      match front, he with
      | [], he => simpa using he
      | [c], he => simp at he
      | c :: d :: front, he =>
        obtain ⟨rfl, rfl, -⟩ : '-' = c ∧ '>' = d ∧ _ := by simpa using he
        exact absurd ⟨[], front, rfl⟩ hf
  | case2 c cs hc ih =>
    rw [ih]
    constructor
    · rintro ⟨front, rfl, hf⟩
      refine ⟨c :: front, rfl, ?_⟩
      rw [List.infix_cons_iff]
      rintro (⟨tail, ht⟩ | hin)
      · obtain ⟨rfl, rfl⟩ : '-' = c ∧ '>' :: tail = front := by simpa using ht
        exact hc _ rfl rfl
      · exact hf hin
    · rintro ⟨front, he, hf⟩
      cases front with
      | nil =>
        obtain ⟨rfl, rfl⟩ : c = '-' ∧ cs = '>' :: rest := by simpa using he
        exact absurd rfl (hc rest rfl)
      | cons d front =>
        obtain ⟨rfl, rfl⟩ : c = d ∧ cs = front ++ '-' :: '>' :: rest := by simpa using he
        exact ⟨front, rfl, fun hin => hf (List.infix_cons hin)⟩
  | case3 => simp

theorem trailingReturnType_eq_some_iff {text t : List Char} :
    trailingReturnType text = some t ↔ ArrowType text t := by
  unfold trailingReturnType ArrowType
  rw [Option.filter_eq_some_iff, Option.map_eq_some_iff]
  simp only [afterArrow_eq_some_iff, bne_iff_ne]
  constructor
  · rintro ⟨⟨rest, ⟨front, he, hf⟩, ht⟩, hne⟩
    exact ⟨hne, front, rest, he, hf, ht⟩
  · rintro ⟨hne, front, rest, he, hf, ht⟩
    exact ⟨⟨rest, ⟨front, he, hf⟩, ht⟩, hne⟩

theorem afterArrow_cons {c : Char} {cs : List Char} (h : c = '-' → cs.head? ≠ some '>') :
    afterArrow (c :: cs) = afterArrow cs := by
  apply afterArrow.eq_2
  rintro rest rfl rfl
  exact h rfl rfl

theorem afterArrow_append_blank {blanks : List Char} (h : Text.Blank blanks) (text : List Char) :
    afterArrow (text ++ blanks) = (afterArrow text).map (· ++ blanks) := by
  have hdash : ∀ c ∈ blanks, c ≠ '-' := by
    rintro c hc rfl
    exact absurd (h _ hc) (by decide)
  have hnone : afterArrow blanks = none := by
    clear h
    induction blanks with
    | nil => rfl
    | cons c cs ih =>
      rw [afterArrow_cons fun he => absurd he (hdash c List.mem_cons_self)]
      exact ih fun c hc => hdash c (List.mem_cons_of_mem _ hc)
  fun_induction afterArrow text with
  | case1 rest => rfl
  | case2 c cs hc ih =>
    have hhead : c = '-' → (cs ++ blanks).head? ≠ some '>' := by
      intro hdash hgreater
      cases cs with
      | nil => exact absurd (h _ (List.mem_of_head? hgreater)) (by decide)
      | cons d cs =>
        obtain rfl : d = '>' := by simpa using hgreater
        exact hc cs hdash rfl
    rw [List.cons_append, afterArrow_cons hhead, ih]
  | case3 => exact hnone

theorem trailingReturnType_trimEnd (text : List Char) :
    trailingReturnType (Text.trimEnd text) = trailingReturnType text := by
  obtain ⟨blanks, hblanks, htext, -⟩ := Text.exists_trimEnd text
  have hafter := afterArrow_append_blank hblanks (Text.trimEnd text)
  rw [← htext] at hafter
  unfold trailingReturnType
  rw [hafter, Option.map_map]
  congr 2
  funext rest
  exact (Text.trim_append_blank hblanks rest).symm

namespace DeclaratorGroup

theorem strip_around (g : DeclaratorGroup) {before declarator : List Char} {s : Stripped}
    (h : Opens before) (hb : Balanced declarator)
    (hs : strip (g.pointer ++ declarator) = .ok (some s)) :
    strip (before ++ g.around declarator) =
      .ok (some { s with returned := before ++ '(' :: (s.returned ++ ')' :: g.suffix) }) := by
  unfold around
  rw [h.strip (g.balanced_pointer.append hb), g.marked_pointer, hs, if_pos rfl]
  simp [Except.map]

theorem balanced_foldr_around {core : List Char} (h : Balanced core)
    (groups : List DeclaratorGroup) : Balanced (groups.foldr around core) := by
  induction groups with
  | nil => exact h
  | cons g groups ih => exact .group (g.balanced_pointer.append ih) g.balanced

/-- What is taken out of the innermost group is taken out of all of them. -/
theorem strip_foldr_around {core parameters trailing : List Char} (hb : Balanced core)
    (hcore : ∀ before, Opens before →
      strip (before ++ core) = .ok (some ⟨Text.trimEnd before, parameters, trailing⟩))
    (g : DeclaratorGroup) (groups : List DeclaratorGroup) {before : List Char}
    (h : Opens before) : strip (before ++ (g :: groups).foldr around core) =
      .ok (some ⟨before ++ withoutList (g :: groups), parameters, trailing⟩) := by
  induction groups generalizing g before with
  | nil =>
    rw [List.foldr_cons, List.foldr_nil, g.strip_around h hb (hcore _ g.opens)]
    rfl
  | cons inner groups ih =>
    have hbalanced := balanced_foldr_around hb (inner :: groups)
    rw [List.foldr_cons, g.strip_around h hbalanced (ih inner g.opens)]
    simp [withoutList, around]

theorem withoutList_cons (g : DeclaratorGroup) (groups : List DeclaratorGroup) :
    ∃ front, withoutList (g :: groups) = '(' :: (front ++ ')' :: g.suffix) := by
  cases groups with
  | nil => exact ⟨Text.trimEnd g.pointer, rfl⟩
  | cons inner groups => exact ⟨g.pointer ++ withoutList (inner :: groups), rfl⟩

end DeclaratorGroup

theorem bare_closed {cs : List Char} (h : ∀ c ∈ cs.getLast?, Text.isBlank c = false) :
    Text.Bare (')' :: cs) := by
  constructor
  · intro c hc
    obtain rfl : ')' = c := by simpa using hc
    decide
  · intro c hc
    cases cs with
    | nil =>
      obtain rfl : ')' = c := by simpa using hc
      decide
    | cons d cs =>
      rw [List.getLast?_cons_of_ne_nil (by simp)] at hc
      exact h c hc

/-- A text between a base and what closes a group has no margins. -/
theorem BaseSpelling.bare_append (b : BaseSpelling) (middle : List Char) {cs : List Char}
    (h : ∀ c ∈ cs.getLast?, Text.isBlank c = false) :
    Text.Bare (b.text ++ (middle ++ ')' :: cs)) :=
  b.bare.append (bare_closed h) b.ne_nil (by simp) middle

namespace FunctionSpelling

/-- The parameter list and what qualifies the function. -/
def declared (f : FunctionSpelling) : List Char :=
  '(' :: (f.list.contents ++ ')' :: f.qualifiers)

def text (f : FunctionSpelling) : List Char :=
  f.base.text ++ f.gap ++ f.groups.foldr DeclaratorGroup.around f.declared

def print (f : FunctionSpelling) : String := String.ofList f.text

/-- The return type that the parts stand for. The base alone may leave it to an arrow. -/
def Returns (f : FunctionSpelling) (t : List Char) : Prop :=
  match f.groups with
  | [] =>
    (f.base.text = "auto".toList ∧ ArrowType f.qualifiers t) ∨
      (t = f.base.text ∧ ¬(t = "auto".toList ∧ ∃ arrow, ArrowType f.qualifiers arrow))
  | groups => t = f.base.text ++ f.gap ++ withoutList groups

theorem opens (f : FunctionSpelling) : Opens (f.base.text ++ f.gap) :=
  f.base.opens.append_blank f.blank

theorem strip_text_plain {f : FunctionSpelling} (h : f.groups = []) :
    strip (Text.trim f.text) =
      .ok (some ⟨f.base.text, f.list.contents, Text.trimEnd f.qualifiers⟩) := by
  obtain ⟨blanks, hblanks, hq, hlast⟩ := Text.exists_trimEnd f.qualifiers
  have htrim : Text.trim f.text = f.base.text ++ f.gap ++
      '(' :: (f.list.contents ++ ')' :: Text.trimEnd f.qualifiers) := by
    refine Text.trim_eq_iff.2 ⟨[], blanks, by simp [Text.Blank], hblanks, ?_, ?_⟩
    · unfold text declared
      rw [h]
      nth_rewrite 1 [hq]
      simp
    · have hbare := f.base.bare_append (f.gap ++ '(' :: f.list.contents) hlast
      simpa using hbare
  have hreturned : Text.trimEnd (f.base.text ++ f.gap) = f.base.text := by
    rw [Text.trimEnd_append f.blank, Text.trimEnd_of_last f.base.bare.last]
  rw [htrim, f.opens.strip f.list.balanced_contents, f.list.unmarked_contents, hreturned]
  rfl

theorem strip_text_groups {f : FunctionSpelling} {g : DeclaratorGroup}
    {groups : List DeclaratorGroup} (h : f.groups = g :: groups) :
    strip (Text.trim f.text) = .ok (some
      ⟨f.base.text ++ f.gap ++ withoutList (g :: groups), f.list.contents, f.qualifiers⟩) := by
  have htrim : Text.trim f.text = f.text := by
    have hbare := f.base.bare_append
      (f.gap ++ '(' :: (g.pointer ++ groups.foldr DeclaratorGroup.around f.declared)) g.bare.last
    apply Text.Bare.trim
    unfold text
    rw [h, List.foldr_cons, DeclaratorGroup.around]
    simpa using hbare
  have hcore : ∀ before, Opens before → strip (before ++ f.declared) =
      .ok (some ⟨Text.trimEnd before, f.list.contents, f.qualifiers⟩) := by
    intro before hbefore
    unfold declared
    rw [hbefore.strip f.list.balanced_contents, f.list.unmarked_contents]
    rfl
  rw [htrim, text, h]
  exact DeclaratorGroup.strip_foldr_around (.group f.list.balanced_contents f.balanced) hcore g
    groups f.opens

theorem returns_plain {f : FunctionSpelling} (h : f.groups = []) (t : List Char) :
    f.Returns t ↔
      t = returnType ⟨f.base.text, f.list.contents, Text.trimEnd f.qualifiers⟩ := by
  unfold Returns returnType
  simp only [h, f.base.bare.trim, trailingReturnType_trimEnd, ← trailingReturnType_eq_some_iff,
    beq_iff_eq]
  by_cases hauto : f.base.text = "auto".toList
  · cases hr : trailingReturnType f.qualifiers with
    | none => simp [hauto]
    | some arrow => simp [hauto, eq_comm]
  · rw [if_neg hauto]
    constructor
    · rintro (⟨h, -⟩ | ⟨h, -⟩)
      · exact absurd h hauto
      · exact h
    · rintro rfl
      exact .inr ⟨rfl, fun h => hauto h.1⟩

theorem returns_groups {f : FunctionSpelling} {g : DeclaratorGroup}
    {groups : List DeclaratorGroup} (h : f.groups = g :: groups) (t : List Char) :
    f.Returns t ↔ t = returnType
      ⟨f.base.text ++ f.gap ++ withoutList (g :: groups), f.list.contents, f.qualifiers⟩ := by
  obtain ⟨front, hfront⟩ := DeclaratorGroup.withoutList_cons g groups
  have hbare : Text.Bare (f.base.text ++ f.gap ++ withoutList (g :: groups)) := by
    have hb := f.base.bare_append (f.gap ++ '(' :: front) g.bare.last
    rw [hfront]
    simpa using hb
  have hauto : f.base.text ++ f.gap ++ withoutList (g :: groups) ≠ "auto".toList := by
    intro he
    have hmem : '(' ∈ "auto".toList := by
      rw [← he, hfront]
      simp
    exact absurd hmem (by decide)
  unfold Returns returnType
  simp only [h, hbare.trim, beq_iff_eq, hauto, if_false]

theorem ne_nil_of_returns {f : FunctionSpelling} {t : List Char} (h : f.Returns t) : t ≠ [] := by
  unfold Returns at h
  split at h
  · rcases h with ⟨-, h⟩ | ⟨rfl, -⟩
    · exact h.1
    · exact f.base.ne_nil
  · rw [h]
    simp [f.base.ne_nil]

/-- Taking out the parameter list leaves what the return type is read from. -/
theorem exists_strip (f : FunctionSpelling) : ∃ s, strip (Text.trim f.text) = .ok (some s) ∧
    s.parameters = f.list.contents ∧ ∀ t, f.Returns t ↔ t = returnType s := by
  cases hg : f.groups with
  | nil => exact ⟨_, strip_text_plain hg, rfl, returns_plain hg⟩
  | cons g groups => exact ⟨_, strip_text_groups hg, rfl, returns_groups hg⟩

end FunctionSpelling

/-- Splitting a function type that has been put together gives back the types of its parameters and
its return type, which is the spelling without the parameter list. -/
theorem splitFunctionType_print (f : FunctionSpelling) :
    ∃ t, (∀ other, f.Returns other ↔ other = t) ∧
      splitFunctionType f.print =
        .ok (some ⟨String.ofList t, f.list.types.map fun p => String.ofList p.text⟩) := by
  obtain ⟨s, hs, hp, hreturns⟩ := f.exists_strip
  have hne : returnType s ≠ [] := FunctionSpelling.ne_nil_of_returns ((hreturns _).2 rfl)
  refine ⟨returnType s, hreturns, ?_⟩
  unfold splitFunctionType signature FunctionSpelling.print
  rw [String.toList_ofList, hs]
  simp only [beq_iff_eq, hne, if_false, hp, f.list.parameterTypes_contents, List.map_map]
  rfl

/-- A function that returns a pointer to arrays of references to functions. -/
def nestedSpelling : FunctionSpelling where
  base :=
    { text := "decltype".toList ++ '(' :: ("a < (b)".toList ++ [')']) ++ " const".toList
      ne_nil := by decide
      bare := ⟨by decide, by decide⟩
      passed := by
        have hword : Passed ([] ++ "decltype".toList) 0 := Passed.nil.append_plain (by decide)
        have hinner : Balanced "a < (b)".toList :=
          .char (by decide) (by decide) <| .char (by decide) (by decide) <|
          .char (by decide) (by decide) <| .char (by decide) (by decide) <|
          .group (.char (by decide) (by decide) .nil) .nil
        exact (hword.operand (by decide) (by decide) hinner).append_plain (by decide)
      noOperator := by decide
      narrow := by decide }
  gap := [' ']
  blank := by decide
  groups :=
    [{ pointer := "*const ".toList
       suffix := "[3]".toList
       marked := ⟨'*', rfl, rfl⟩
       plain := by decide
       noOperator := by decide
       balanced := balanced_of_plain (by decide)
       bare := ⟨by decide, by decide⟩ },
     { pointer := "& ".toList
       suffix := "(char)".toList
       marked := ⟨'&', rfl, rfl⟩
       plain := by decide
       noOperator := by decide
       balanced := by
         have hchar : Balanced "char".toList := balanced_of_plain (by decide)
         exact .group hchar .nil
       bare := ⟨by decide, by decide⟩ }]
  list :=
    { types :=
        [{ text := 'A' :: '<' :: ("B, ".toList ++ '(' :: (['1'] ++ [')']) ++ ['>'])
           piece := by
             have hnumber : Nested ('(' :: (['1'] ++ ')' :: [])) :=
               .group (by decide) (.char (by decide) .nil) .nil
             have hinner : Nested ("B, ".toList ++ '(' :: (['1'] ++ [')'])) :=
               .char (by decide) (.char (by decide) (.char (by decide) hnumber))
             exact ⟨by decide, ⟨by decide, by decide⟩,
               .char (by decide) (by decide) (.group (by decide) hinner .nil)⟩
           ne_variadic := by decide
           unmarked := by decide },
         { text := "int ".toList ++ '(' :: (['*'] ++ ')' :: '(' :: ("char".toList ++ [')']))
           piece := by
             have hchar : Undivided "char".toList := undivided_of_plain (by decide)
             have hpointer : Nested ['*'] := .char (by decide) .nil
             exact ⟨by decide, ⟨by decide, by decide⟩, Undivided.plain_append (by decide)
               (.group (by decide) hpointer (.group (by decide) hchar.nested .nil))⟩
           ne_variadic := by decide
           unmarked := by decide }]
      ending := [variadicMark]
      ending_eq := .inr (.inl rfl)
      ne_void := by decide }
  qualifiers := " const".toList
  balanced := balanced_of_plain (by decide)

theorem splitFunctionType_print_nested :
    nestedSpelling.print = "decltype(a < (b)) const " ++
      "(*const (& (A<B, (1)>, int (*)(char), ...) const)(char))[3]" ∧
    splitFunctionType nestedSpelling.print = .ok (some
      ⟨"decltype(a < (b)) const (*const (&)(char))[3]", ["A<B, (1)>", "int (*)(char)"]⟩) := by
  obtain ⟨t, ht, hsplit⟩ := splitFunctionType_print nestedSpelling
  have hreturns :
      nestedSpelling.Returns "decltype(a < (b)) const (*const (&)(char))[3]".toList := by
    show _ = _
    decide +kernel
  obtain rfl := (ht _).1 hreturns
  refine ⟨by decide +kernel, ?_⟩
  rw [hsplit]
  decide +kernel

end CSymbols.Spelling

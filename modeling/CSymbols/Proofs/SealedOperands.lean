import CSymbols.Proofs.CommaDepth
import CSymbols.Proofs.SpellingLayout

/-! Operands in parentheses inside a function type, such as that of `noexcept` or an expression
among template arguments. Splitting counts brackets and looks for an arrow in them too, so what
stands in the parentheses can move the borders of the types around it; this says exactly when it
does not. -/
namespace CSymbols.Spelling

/-- A text with gaps, all filled by the same contents. -/
def filled (contents : List Char) (text : List (Option Char)) : List Char :=
  text.flatMap fun c? => c?.elim contents fun c => [c]

@[simp] theorem filled_append (contents : List Char) (front back : List (Option Char)) :
    filled contents (front ++ back) = filled contents front ++ filled contents back :=
  List.flatMap_append

@[simp] theorem filled_some_cons (contents : List Char) (c : Char) (text : List (Option Char)) :
    filled contents (some c :: text) = c :: filled contents text := rfl

@[simp] theorem filled_none_cons (contents : List Char) (text : List (Option Char)) :
    filled contents (none :: text) = contents ++ filled contents text := rfl

@[simp] theorem filled_map_some (contents text : List Char) :
    filled contents (text.map some) = text := by
  induction text with
  | nil => rfl
  | cons c text ih => rw [List.map_cons, filled_some_cons, ih]

/-- A signature in which the contents of an operand are left open. -/
structure SignatureShape where
  returnType : List (Option Char)
  parameterTypes : List (List (Option Char))

def SignatureShape.fill (shape : SignatureShape) (contents : List Char) : Signature :=
  ⟨String.ofList (filled contents shape.returnType),
    shape.parameterTypes.map fun t => String.ofList (filled contents t)⟩

/-- A text around an operand. -/
def operandIn (front back contents : List Char) : List Char :=
  front ++ '(' :: (contents ++ ')' :: back)

/-- Where an operand stands: in the parameter list or in what follows it. -/
inductive OperandPlace where
  | inList (front back trailing : List Char)
  | behindList (parameters front back : List Char)

namespace OperandPlace

def parameters : OperandPlace → List Char → List Char
  | .inList front back _ => operandIn front back
  | .behindList parameters _ _ => fun _ => parameters

def trailing : OperandPlace → List Char → List Char
  | .inList _ _ trailing => fun _ => trailing
  | .behindList _ front back => operandIn front back

/-- The parameter list has its parentheses in pairs and is no declarator group. -/
def WellFormed : OperandPlace → Prop
  | .inList front back _ => Balanced (front ++ back) ∧ ¬IsGroup front
  | .behindList parameters _ _ => Balanced parameters ∧ ¬IsGroup parameters

/-- The contents do not show outside of their parentheses. In a parameter list, no comma of theirs
stands at depth zero, and the depth that they leave divides the rest at the same commas as the depth
in front of them. Behind the list, they hold no arrow that could be taken for the one in front of
the return type. -/
def Sealed (returned : List Char) : OperandPlace → List Char → Prop
  | .inList front back _, contents =>
    Whole (depthBehind 0 front + 1) contents ∧
      commaPieces (depthBehind (depthBehind 0 front + 1) contents - 1) back =
        commaPieces (depthBehind 0 front) back
  | .behindList _ front _, contents =>
    returned = "auto".toList → ['-', '>'] <:+: front ∨ ¬['-', '>'] <:+: contents

end OperandPlace

/-- A function type with an operand: the return type with the blanks behind it, and the rest. -/
structure OperandSpelling where
  before : List Char
  place : OperandPlace
  leads : Leads before
  first : ∃ c ∈ before.head?, Text.isBlank c = false
  wellFormed : place.WellFormed

namespace OperandSpelling

def spell (f : OperandSpelling) (contents : List Char) : String :=
  plainSpelling f.before (f.place.parameters contents) (f.place.trailing contents)

def Sealed (f : OperandSpelling) (contents : List Char) : Prop :=
  f.place.Sealed (Text.trimEnd f.before) contents

end OperandSpelling

/-- Parentheses behind a text that they do not close are counted from some depth on. -/
theorem exists_closingParenthesis_append {depth : Nat} {front back inner rest : List Char}
    (h : closingParenthesis depth (front ++ back) = some (front ++ inner, rest)) :
    ∃ behind, ∀ cs, closingParenthesis depth (front ++ cs) =
      (closingParenthesis behind cs).map fun r => (front ++ r.1, r.2) := by
  induction front generalizing depth with
  | nil => exact ⟨depth, fun cs => by simp⟩
  | cons c front ih =>
    simp only [List.cons_append] at h ⊢
    by_cases hc : c = ')'
    · subst hc
      cases depth with
      | zero => simp [closingParenthesis_found] at h
      | succ depth =>
        rw [closingParenthesis_closed] at h
        obtain ⟨⟨inner', rest'⟩, hr, he⟩ := Option.map_eq_some_iff.1 h
        obtain ⟨rfl, rfl⟩ : inner' = front ++ inner ∧ rest' = rest := by simpa using he
        obtain ⟨behind, hbehind⟩ := ih hr
        refine ⟨behind, fun cs => ?_⟩
        rw [closingParenthesis_closed, hbehind, Option.map_map]
        rfl
    · by_cases ho : c = '('
      · subst ho
        rw [closingParenthesis_opened] at h
        obtain ⟨⟨inner', rest'⟩, hr, he⟩ := Option.map_eq_some_iff.1 h
        obtain ⟨rfl, rfl⟩ : inner' = front ++ inner ∧ rest' = rest := by simpa using he
        obtain ⟨behind, hbehind⟩ := ih hr
        refine ⟨behind, fun cs => ?_⟩
        rw [closingParenthesis_opened, hbehind, Option.map_map]
        rfl
      · rw [closingParenthesis_char ho hc] at h
        obtain ⟨⟨inner', rest'⟩, hr, he⟩ := Option.map_eq_some_iff.1 h
        obtain ⟨rfl, rfl⟩ : inner' = front ++ inner ∧ rest' = rest := by simpa using he
        obtain ⟨behind, hbehind⟩ := ih hr
        refine ⟨behind, fun cs => ?_⟩
        rw [closingParenthesis_char ho hc, hbehind, Option.map_map]
        rfl

theorem balanced_iff_closingParenthesis {cs : List Char} :
    Balanced cs ↔ closingParenthesis 0 (cs ++ [')']) = some (cs, []) := by
  simp [closingParenthesis_eq_some_iff]

theorem Balanced.insert {front back middle : List Char} (h : Balanced (front ++ back))
    (hm : Balanced middle) : Balanced (front ++ (middle ++ back)) := by
  rw [balanced_iff_closingParenthesis, List.append_assoc] at h ⊢
  obtain ⟨behind, hbehind⟩ := exists_closingParenthesis_append h
  rw [hbehind] at h
  obtain ⟨⟨inner, rest⟩, hr, he⟩ := Option.map_eq_some_iff.1 h
  obtain ⟨rfl, rfl⟩ : inner = back ∧ rest = [] := by simpa using he
  rw [hbehind, List.append_assoc, closingParenthesis_balanced hm, hr]
  rfl

theorem OperandPlace.WellFormed.balanced {place : OperandPlace} (h : place.WellFormed)
    {contents : List Char} (hc : Balanced contents) : Balanced (place.parameters contents) := by
  cases place with
  | inList front back trailing =>
    have hoperand : Balanced ('(' :: (contents ++ [')'])) := .group hc .nil
    simpa [parameters, operandIn] using Balanced.insert h.1 hoperand
  | behindList parameters front back => exact h.1

theorem not_isGroup_append {front : List Char} (h : ¬IsGroup front) (rest : List Char) :
    ¬IsGroup (front ++ '(' :: rest) := by
  rintro ⟨c, hc, hmark⟩
  rw [Text.trimStart_append_cons (by decide)] at hc
  cases hs : Text.trimStart front with
  | nil =>
    obtain rfl : '(' = c := by simpa [hs] using hc
    exact absurd hmark (by decide)
  | cons d cs =>
    obtain rfl : d = c := by simpa [hs] using hc
    exact h ⟨d, by simp [hs], hmark⟩

theorem OperandPlace.WellFormed.not_isGroup {place : OperandPlace} (h : place.WellFormed)
    (contents : List Char) : ¬IsGroup (place.parameters contents) := by
  cases place with
  | inList front back trailing => exact not_isGroup_append h.2 _
  | behindList parameters front back => exact h.2

theorem parameterTypes_of_opening {cs : List Char} (h : '(' ∈ cs) :
    parameterTypes cs = keptTypes (commaPieces 0 cs) := by
  have hblank : ¬Text.Blank cs := fun hb => absurd (hb '(' h) (by decide)
  have hvoid : Text.trim cs ≠ noParameters := by
    intro he
    have hmem : '(' ∈ Text.trim cs := by
      obtain ⟨front, back, rfl⟩ := List.append_of_mem h
      rw [Text.trim_append_cons (by decide)]
      simp
    rw [he] at hmem
    exact absurd hmem (by decide)
  exact parameterTypes_eq_keptTypes hblank hvoid

theorem keptTypes_append (front back : List (List Char)) :
    keptTypes (front ++ back) = keptTypes front ++ keptTypes back := by
  simp [keptTypes]

theorem keptTypes_opening (front back : List Char) (pieces : List (List Char)) :
    keptTypes ((front ++ '(' :: back) :: pieces) =
      (Text.trimStart front ++ '(' :: Text.trimEnd back) :: keptTypes pieces := by
  have hvariadic : Text.trimStart front ++ '(' :: Text.trimEnd back ≠ variadicMark := by
    intro he
    have hmem : '(' ∈ variadicMark := he ▸ by simp
    exact absurd hmem (by decide)
  unfold keptTypes
  rw [List.map_cons, Text.trim_append_cons (by decide),
    List.filter_cons_of_pos (by simp [hvariadic])]

/-- The contents are sealed just if they leave the piece around them, and with it all pieces behind,
what these would be. -/
theorem whole_and_commaPieces_iff {depth : Nat} {contents back piece rest : List Char}
    {pieces others : List (List Char)}
    (hp : commaPieces (depth + 1) (contents ++ ')' :: back) = piece :: pieces)
    (hr : commaPieces depth back = rest :: others) :
    Whole (depth + 1) contents ∧
        commaPieces (depthBehind (depth + 1) contents - 1) back = commaPieces depth back ↔
      Text.trimEnd piece = contents ++ ')' :: Text.trimEnd rest ∧
        keptTypes pieces = keptTypes others := by
  have hfirst := commaPieces_eq_cons_iff.1 hp
  have hrest := commaPieces_eq_cons_iff.1 hr
  have hsplit : contents ++ ')' :: back = contents ++ [')'] ++ back := by simp
  have hclosed : Whole (depth + 1) (contents ++ [')']) ↔ Whole (depth + 1) contents := by simp
  have hdepth : depthBehind (depth + 1) (contents ++ [')']) =
      depthBehind (depth + 1) contents - 1 := by
    simp
  rw [hsplit] at hp hfirst
  constructor
  · rintro ⟨hw, he⟩
    have hsame := commaPieces_eq_cons_iff.1 (he.trans hr)
    rw [← hdepth] at hsame
    have hwhole := commaPieces_eq_cons_iff.2 (firstPiece_append.2 ⟨hclosed.2 hw, hsame⟩)
    obtain ⟨rfl, rfl⟩ := List.cons.inj (hp.symm.trans hwhole)
    refine ⟨?_, rfl⟩
    rw [List.append_assoc, List.singleton_append, Text.trimEnd_append_cons (by decide)]
  · rintro ⟨he, -⟩
    obtain ⟨blanks, hblanks, hpiece, -⟩ := Text.exists_trimEnd piece
    rw [he] at hpiece
    have hcut : piece = contents ++ [')'] ++ (Text.trimEnd rest ++ blanks) := by
      rw [hpiece]
      simp
    rw [hcut, firstPiece_append, hdepth] at hfirst
    obtain ⟨hw, hbehind⟩ := hfirst
    have hmargin : Text.trimEnd (Text.trimEnd rest ++ blanks) = Text.trimEnd rest := by
      rw [Text.trimEnd_append hblanks, Text.trimEnd_trimEnd]
    obtain ⟨hsame, rfl⟩ := hbehind.eq_of_trimEnd hrest hmargin
    rw [hsame] at hbehind
    exact ⟨hclosed.1 hw, (commaPieces_eq_cons_iff.2 hbehind).trans hr.symm⟩

/-- The types of a list with an operand in it, with the contents of the operand left open. -/
theorem exists_parameterTypes_shape (front back trailing returned : List Char) :
    ∃ shape : List (List (Option Char)), ∀ contents,
      parameterTypes (operandIn front back contents) = shape.map (filled contents) ↔
        (OperandPlace.inList front back trailing).Sealed returned contents := by
  obtain ⟨pieces, last, happend⟩ := exists_commaPieces_append 0 front
  obtain ⟨rest, others, hr, -⟩ := exists_firstPiece (depthBehind 0 front) back
  refine ⟨(keptTypes pieces).map (·.map some) ++
    ((Text.trimStart last).map some ++
      some '(' :: none :: some ')' :: (Text.trimEnd rest).map some) ::
    (keptTypes others).map (·.map some), fun contents => ?_⟩
  obtain ⟨piece, behind, hp, -⟩ :=
    exists_firstPiece (depthBehind 0 front + 1) (contents ++ ')' :: back)
  have hpieces : commaPieces 0 (operandIn front back contents) =
      pieces ++ (last ++ '(' :: piece) :: behind := by
    rw [operandIn, happend, commaPieces_char (by simp), depthAfter_opening, hp, extendFirst,
      foldr_extendFirst]
  have htypes : parameterTypes (operandIn front back contents) = keptTypes pieces ++
      (Text.trimStart last ++ '(' :: Text.trimEnd piece) :: keptTypes behind := by
    rw [parameterTypes_of_opening (by simp [operandIn]), hpieces, keptTypes_append,
      keptTypes_opening]
  rw [htypes]
  simp only [OperandPlace.Sealed]
  rw [whole_and_commaPieces_iff hp hr]
  simp [Function.comp_def]

theorem afterArrow_eq_none_iff {text : List Char} :
    afterArrow text = none ↔ ¬['-', '>'] <:+: text := by
  fun_induction afterArrow text with
  | case1 rest =>
    have harrow : ['-', '>'] <:+: '-' :: '>' :: rest := ⟨[], rest, rfl⟩
    simp [harrow]
  | case2 c cs hc ih =>
    rw [ih, List.infix_cons_iff]
    refine not_congr ⟨.inr, ?_⟩
    rintro (⟨rest, he⟩ | h)
    · obtain ⟨rfl, rfl⟩ : '-' = c ∧ '>' :: rest = cs := by simpa using he
      exact absurd rfl (hc rest rfl)
    · exact h
  | case3 => simp

theorem afterArrow_append_of_some {front rest : List Char} (h : afterArrow front = some rest)
    (back : List Char) : afterArrow (front ++ back) = some (rest ++ back) := by
  obtain ⟨before, rfl, hbefore⟩ := afterArrow_eq_some_iff.1 h
  exact afterArrow_eq_some_iff.2 ⟨before, by simp, hbefore⟩

theorem afterArrow_append_of_none {front back : List Char} (h : afterArrow front = none)
    (hb : back.head? ≠ some '>') : afterArrow (front ++ back) = afterArrow back := by
  fun_induction afterArrow front with
  | case1 rest => simp at h
  | case2 c cs hc ih =>
    have hhead : c = '-' → (cs ++ back).head? ≠ some '>' := by
      intro hdash hgreater
      cases cs with
      | nil => exact hb hgreater
      | cons d cs =>
        obtain rfl : d = '>' := by simpa using hgreater
        exact hc cs hdash rfl
    rw [List.cons_append, afterArrow_cons hhead, ih h]
  | case3 => rfl

/-- The first arrow behind the list, if there is none in front of an operand. -/
theorem afterArrow_operandIn {front : List Char} (h : afterArrow front = none)
    (back contents : List Char) :
    afterArrow (operandIn front back contents) =
      ((afterArrow contents).map (· ++ ')' :: back)).or (afterArrow back) := by
  rw [operandIn, afterArrow_append_of_none h (by simp), afterArrow_cons (by simp)]
  cases hc : afterArrow contents with
  | none =>
    rw [afterArrow_append_of_none hc (by simp), afterArrow_cons (by simp)]
    rfl
  | some rest =>
    rw [afterArrow_append_of_some hc]
    rfl

theorem count_trim {c : Char} (hc : Text.isBlank c = false) (cs : List Char) :
    (Text.trim cs).count c = cs.count c := by
  have hnone : ∀ {blanks : List Char}, Text.Blank blanks → blanks.count c = 0 := by
    intro blanks hblanks
    rw [List.count_eq_zero]
    intro hmem
    simp [hblanks c hmem] at hc
  obtain ⟨front, back, hfront, hback, hcs, -⟩ :=
    Text.trim_eq_iff.1 (rfl : Text.trim cs = Text.trim cs)
  nth_rewrite 2 [hcs]
  simp [List.count_append, hnone hfront, hnone hback]

/-- A return type found behind the operand closes no more parentheses than there are. -/
theorem count_trailingReturnType_le (back : List Char) :
    ((trailingReturnType back).getD "auto".toList).count ')' ≤ back.count ')' := by
  cases hr : trailingReturnType back with
  | none => simp
  | some t =>
    obtain ⟨-, front, rest, rfl, -, rfl⟩ := trailingReturnType_eq_some_iff.1 hr
    rw [Option.getD_some, count_trim (by decide), List.count_append]
    simp

/-- The return type of a spelling with an operand behind the parameter list, with the contents of
the operand left open. -/
theorem exists_returnType_shape {returned : List Char} (hr : Text.trim returned = returned)
    (parameters front back : List Char) : ∃ shape : List (Option Char), ∀ contents,
      returnType ⟨returned, parameters, operandIn front back contents⟩ = filled contents shape ↔
        (OperandPlace.behindList parameters front back).Sealed returned contents := by
  simp only [returnType, hr, beq_iff_eq, OperandPlace.Sealed]
  by_cases hauto : returned = "auto".toList
  · simp only [hauto, if_true, forall_const]
    cases hfront : afterArrow front with
    | some rest =>
      -- The operand is part of the return type.
      refine ⟨(Text.trimStart rest).map some ++
        some '(' :: none :: some ')' :: (Text.trimEnd back).map some, fun contents => ?_⟩
      have harrow : ['-', '>'] <:+: front := by
        by_contra hno
        simp [afterArrow_eq_none_iff.2 hno] at hfront
      have htype : trailingReturnType (operandIn front back contents) =
          some (Text.trimStart rest ++ '(' :: (contents ++ ')' :: Text.trimEnd back)) := by
        rw [trailingReturnType, operandIn, afterArrow_append_of_some hfront, Option.map_some,
          Text.trim_append_cons (by decide), Text.trimEnd_append_cons (by decide)]
        simp
      simp [htype, harrow]
    | none =>
      have hno : ¬['-', '>'] <:+: front := afterArrow_eq_none_iff.1 hfront
      refine ⟨((trailingReturnType back).getD "auto".toList).map some, fun contents => ?_⟩
      rw [filled_map_some, or_iff_right hno, ← afterArrow_eq_none_iff]
      cases hcontents : afterArrow contents with
      | none =>
        have htype : trailingReturnType (operandIn front back contents) =
            trailingReturnType back := by
          rw [trailingReturnType, afterArrow_operandIn hfront, hcontents]
          rfl
        simp [htype]
      | some rest =>
        have htype : trailingReturnType (operandIn front back contents) =
            some (Text.trim (rest ++ ')' :: back)) := by
          rw [trailingReturnType, afterArrow_operandIn hfront, hcontents, Option.map_some,
            Option.some_or, Option.map_some, Text.trim_append_cons (by decide)]
          simp
        -- The parenthesis behind the operand is now part of the return type.
        have hne : Text.trim (rest ++ ')' :: back) ≠
            (trailingReturnType back).getD "auto".toList := by
          intro he
          have hle := count_trailingReturnType_le back
          rw [← he, count_trim (by decide), List.count_append, List.count_cons_self] at hle
          omega
        rw [htype, Option.getD_some]
        exact iff_of_false hne (by simp)
  · refine ⟨returned.map some, fun contents => ?_⟩
    rw [if_neg hauto, filled_map_some]
    exact iff_of_true rfl fun h => absurd h hauto

theorem trim_trimEnd {text : List Char} (h : ∃ c ∈ text.head?, Text.isBlank c = false) :
    Text.trim (Text.trimEnd text) = Text.trimEnd text := by
  obtain ⟨c, hc, hblank⟩ := h
  obtain ⟨cs, rfl⟩ := List.head?_eq_some_iff.1 hc
  have hend : Text.trimEnd (c :: cs) = [] ++ c :: Text.trimEnd cs :=
    Text.trimEnd_append_cons hblank [] cs
  rw [hend, Text.trim_append_cons hblank, Text.trimEnd_trimEnd]
  rfl

/-- Contents whose brackets are nested and that hold no arrow are sealed wherever they stand. -/
theorem OperandPlace.sealed_of_nested (place : OperandPlace) (returned : List Char)
    {contents : List Char} (hn : Nested contents) (ha : ¬['-', '>'] <:+: contents) :
    place.Sealed returned contents := by
  cases place with
  | inList front back trailing =>
    obtain ⟨hw, hdepth⟩ := hn.whole (depthBehind 0 front)
    refine ⟨hw, ?_⟩
    rw [hdepth, Nat.add_sub_cancel]
  | behindList parameters front back => exact fun _ => .inr ha

/-- Either no contents let a function type with an operand be split, or there is one signature, with
the contents left open, that splitting gives just for those contents that are sealed. -/
theorem splitFunctionType_operand (f : OperandSpelling) :
    ((∃ fault, ∀ contents, splitFunctionType (f.spell contents) = .error fault) ∨
      ∃ shape : SignatureShape, ∀ contents, Balanced contents →
        (splitFunctionType (f.spell contents) = .ok (some (shape.fill contents)) ↔
          f.Sealed contents)) ∧
    ∀ contents, Nested contents → ¬['-', '>'] <:+: contents → f.Sealed contents := by
  refine ⟨?_, fun contents hn ha => f.place.sealed_of_nested _ hn ha⟩
  rcases f.leads.splitFunctionType f.first with ⟨fault, hfault⟩ | hsplit
  · exact .inl ⟨fault, fun contents => hfault _ _⟩
  · right
    have hspell : ∀ contents, Balanced contents → splitFunctionType (f.spell contents) =
        .ok (some ⟨String.ofList (returnType
          ⟨Text.trimEnd f.before, f.place.parameters contents, f.place.trailing contents⟩),
          (parameterTypes (f.place.parameters contents)).map String.ofList⟩) :=
      fun contents hc => hsplit _ _ (f.wellFormed.balanced hc) (f.wellFormed.not_isGroup contents)
    unfold OperandSpelling.Sealed
    cases hplace : f.place with
    | inList front back trailing =>
      obtain ⟨types, htypes⟩ :=
        exists_parameterTypes_shape front back trailing (Text.trimEnd f.before)
      refine ⟨⟨(returnType ⟨Text.trimEnd f.before, [], trailing⟩).map some, types⟩,
        fun contents hc => ?_⟩
      rw [hspell contents hc, ← htypes,
        ← List.map_inj_right fun _ _ h => String.ofList_injective h]
      simp [hplace, SignatureShape.fill, OperandPlace.parameters, OperandPlace.trailing, returnType,
        Function.comp_def]
    | behindList parameters front back =>
      obtain ⟨returned, hreturned⟩ :=
        exists_returnType_shape (trim_trimEnd f.first) parameters front back
      refine ⟨⟨returned, (parameterTypes parameters).map (·.map some)⟩, fun contents hc => ?_⟩
      rw [hspell contents hc, ← hreturned]
      simp [hplace, SignatureShape.fill, OperandPlace.parameters, OperandPlace.trailing,
        Function.comp_def, String.ofList_inj]

/-- A parameter with an operand among the arguments of its template. -/
def templateOperand : OperandSpelling where
  before := "void ".toList
  place := .inList "A<".toList ", int>".toList []
  leads := by
    have hpassed : Passed ([] ++ "void ".toList) 0 := Passed.nil.append_plain (by decide)
    exact ⟨hpassed.skipped, by decide⟩
  first := ⟨'v', rfl, by decide⟩
  wellFormed := by
    refine ⟨balanced_of_plain (by decide), ?_⟩
    rw [isGroup_iff]
    decide

theorem splitFunctionType_templateOperand :
    templateOperand.spell "N".toList = "void (A<(N), int>)" ∧
      (∃ shape : SignatureShape, ∀ contents, Balanced contents →
        (splitFunctionType (templateOperand.spell contents) = .ok (some (shape.fill contents)) ↔
          templateOperand.Sealed contents)) ∧
      templateOperand.Sealed "N[2]".toList ∧ ¬templateOperand.Sealed "N > 0".toList := by
  have hspell : templateOperand.spell "N".toList = "void (A<(N), int>)" := by decide +kernel
  have hsplit : splitFunctionType "void (A<(N), int>)" =
      .ok (some ⟨"void", ["A<(N), int>"]⟩) := by
    decide +kernel
  have hnested : Nested "N[2]".toList := by
    have hindex : Nested ('[' :: (['2'] ++ ']' :: [])) :=
      .group (by decide) (.char (by decide) .nil) .nil
    exact .char (by decide) hindex
  obtain ⟨hshape, hsealed⟩ := splitFunctionType_operand templateOperand
  refine ⟨hspell, ?_, hsealed _ hnested (by decide), ?_⟩
  · rcases hshape with ⟨fault, hfault⟩ | hshape
    · have hnone := hfault "N".toList
      rw [hspell, hsplit] at hnone
      simp at hnone
    · exact hshape
  · rintro ⟨-, hrest⟩
    exact absurd hrest (by decide)

/-- A comparison among the arguments of a template divides a parameter, and an arrow inside of
`noexcept` is taken for the one in front of the return type. -/
theorem splitFunctionType_unsealed :
    Balanced "N".toList ∧ Balanced "N > 0".toList ∧
      splitFunctionType "void (A<(N), int>)" = .ok (some ⟨"void", ["A<(N), int>"]⟩) ∧
      splitFunctionType "void (A<(N > 0), int>)" =
        .ok (some ⟨"void", ["A<(N > 0)", "int>"]⟩) ∧
      splitFunctionType "auto (int) noexcept(noexcept(f())) -> T" =
        .ok (some ⟨"T", ["int"]⟩) ∧
      splitFunctionType "auto (int) noexcept(noexcept(p->f())) -> T" =
        .ok (some ⟨"f())) -> T", ["int"]⟩) :=
  ⟨balanced_of_plain (by decide), balanced_of_plain (by decide), by decide +kernel,
    by decide +kernel, by decide +kernel, by decide +kernel⟩

end CSymbols.Spelling

import CSymbols.Text.Blank

/-! Parentheses in the spelling of a function type. The first one that is neither inside template
arguments nor the operand of a type operator opens the parameter list, or else a declarator group
such as `(*(int))` that holds it. -/
namespace CSymbols.Spelling

/-- Why a spelling cannot be split. -/
inductive Fault where
  /-- The word in front of a parenthesis begins right behind this character, and the word is cut
  one byte behind where the character begins, which is inside it. -/
  | cutInside (c : Char)
  deriving DecidableEq, Repr

/-- Words whose parenthesised operand belongs to a type. -/
def typeOperators : List (List Char) :=
  ["decltype", "typeof", "__typeof__", "__typeof", "_Atomic", "__underlying_type"].map String.toList

/-- The characters that begin a declarator group. -/
def isPointerMark (c : Char) : Bool := c == '*' || c == '&' || c == '^'

/-- Whether the text whose reversal is given ends, blanks apart, in a type operator. The word is
looked up only if it can be cut off the text. -/
def endsInTypeOperator (reversed : List Char) : Except Fault Bool :=
  let text := reversed.dropWhile Text.isBlank
  let isOperator := typeOperators.contains (text.takeWhile Text.isWordChar).reverse
  match text.dropWhile Text.isWordChar with
  | [] => .ok isOperator
  | c :: _ => if c.utf8Size == 1 then .ok isOperator else .error (.cutInside c)

/-- Finds the parenthesis that opens the parameter list or a declarator group and returns the text
before it and the text behind it.

`angle` counts open angle brackets, `operand` the open parentheses of a type operator's operand, in
which nothing is looked at; `reversed` is the text passed so far. -/
def openingParenthesis (angle operand : Nat) (reversed : List Char) :
    List Char → Except Fault (Option (List Char × List Char))
  | [] => .ok none
  | c :: cs =>
    match operand with
    | inner + 1 =>
      openingParenthesis angle
        (if c == '(' then inner + 2 else if c == ')' then inner else inner + 1) (c :: reversed) cs
    | 0 =>
      if c == '(' && angle == 0 then
        match endsInTypeOperator reversed with
        | .error fault => .error fault
        | .ok true => openingParenthesis angle 1 (c :: reversed) cs
        | .ok false => .ok (some (reversed.reverse, cs))
      else
        openingParenthesis (if c == '<' then angle + 1 else if c == '>' then angle - 1 else angle)
          0 (c :: reversed) cs

/-- Cuts the text behind an opening parenthesis at the one that closes it; `depth` counts the
parentheses opened meanwhile. -/
def closingParenthesis (depth : Nat) : List Char → Option (List Char × List Char)
  | [] => none
  | c :: cs =>
    if c == ')' then
      match depth with
      | 0 => some ([], cs)
      | depth + 1 => (closingParenthesis depth cs).map fun r => (c :: r.1, r.2)
    else
      (closingParenthesis (if c == '(' then depth + 1 else depth) cs).map fun r => (c :: r.1, r.2)

theorem closingParenthesis_length {depth : Nat} {cs inner rest : List Char}
    (h : closingParenthesis depth cs = some (inner, rest)) :
    inner.length + rest.length + 1 = cs.length := by
  induction cs generalizing depth inner rest with
  | nil => simp [closingParenthesis] at h
  | cons c cs ih =>
    unfold closingParenthesis at h
    split at h
    · cases depth with
      | zero => obtain ⟨rfl, rfl⟩ : [] = inner ∧ cs = rest := by simpa using h
                simp
      | succ depth =>
        obtain ⟨⟨a, b⟩, hab, he⟩ := Option.map_eq_some_iff.1 h
        obtain ⟨rfl, rfl⟩ : c :: a = inner ∧ b = rest := by simpa using he
        have := ih hab
        simp only [List.length_cons]
        omega
    · obtain ⟨⟨a, b⟩, hab, he⟩ := Option.map_eq_some_iff.1 h
      obtain ⟨rfl, rfl⟩ : c :: a = inner ∧ b = rest := by simpa using he
      have := ih hab
      simp only [List.length_cons]
      omega

theorem openingParenthesis_length {angle operand : Nat} {reversed cs before rest : List Char}
    (h : openingParenthesis angle operand reversed cs = .ok (some (before, rest))) :
    before.length + rest.length + 1 = reversed.length + cs.length := by
  induction cs generalizing angle operand reversed with
  | nil => simp [openingParenthesis] at h
  | cons c cs ih =>
    unfold openingParenthesis at h
    split at h
    · have := ih h
      simp only [List.length_cons] at this ⊢
      omega
    · split at h
      · split at h
        · simp at h
        · have := ih h
          simp only [List.length_cons] at this ⊢
          omega
        · obtain ⟨rfl, rfl⟩ : reversed.reverse = before ∧ cs = rest := by simpa using h
          simp only [List.length_reverse, List.length_cons]
          omega
      · have := ih h
        simp only [List.length_cons] at this ⊢
        omega

/-- A spelling without the function's own parameter list: what is left spells the return type. -/
structure Stripped where
  returned : List Char
  parameters : List Char
  /-- What follows the list: qualifiers and a trailing return type. -/
  trailing : List Char
  deriving DecidableEq, Repr

/-- Takes the parameter list out of a spelling. In a declarator group the list belongs to the
innermost declarator and the outer parentheses to the return type. -/
def strip (spelling : List Char) : Except Fault (Option Stripped) :=
  match _hOpen : openingParenthesis 0 0 [] spelling with
  | .error fault => .error fault
  | .ok none => .ok none
  | .ok (some (before, rest)) =>
    match _hClose : closingParenthesis 0 rest with
    | none => .ok none
    | some (inner, trailing) =>
      if (Text.trimStart inner).head?.any isPointerMark then
        match strip inner with
        | .error fault => .error fault
        | .ok none => .ok none
        | .ok (some s) =>
          .ok (some { s with returned := before ++ '(' :: s.returned ++ ')' :: trailing })
      else .ok (some ⟨Text.trimEnd before, inner, trailing⟩)
  termination_by spelling.length
  decreasing_by
    have h₁ := openingParenthesis_length _hOpen
    have h₂ := closingParenthesis_length _hClose
    simp only [List.length_nil] at h₁
    omega

end CSymbols.Spelling

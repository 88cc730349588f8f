import CSymbols.Text.Decimal

/-! The tokens of a JSON text. -/
namespace CSymbols.Json

inductive Token where
  | leftBrace
  | rightBrace
  | leftBracket
  | rightBracket
  | comma
  | colon
  | null
  | bool (b : Bool)
  | number (literal : String)
  /-- A string literal; `none` if its escapes denote no Unicode text. -/
  | string (text : Option String)
  deriving DecidableEq, Repr

/-- A part of a string literal: a character, or a 16-bit unit written as `\uXXXX`. -/
inductive Piece where
  | char (c : Char)
  | unit (u : Nat)
  deriving DecidableEq, Repr

/-- The blanks that may stand between tokens. -/
def isJsonBlank (c : Char) : Bool := c == ' ' || c == '\t' || c == '\n' || c == '\r'

/-- The character that a one-letter escape stands for. -/
def escaped? : Char → Option Char
  | '"' => some '"'
  | '\\' => some '\\'
  | '/' => some '/'
  | 'b' => some '\x08'
  | 'f' => some '\x0c'
  | 'n' => some '\n'
  | 'r' => some '\r'
  | 't' => some '\t'
  | _ => none

def unit? (a b c d : Char) : Option Nat := Text.digitsValue? 16 [a, b, c, d]

/-- The parts of a string literal up to its closing quote, and the text behind that. -/
def pieces : List Char → Option (List Piece × List Char)
  | [] => none
  | '"' :: cs => some ([], cs)
  | '\\' :: 'u' :: a :: b :: c :: d :: cs =>
    match unit? a b c d with
    | none => none
    | some u => (pieces cs).map fun r => (.unit u :: r.1, r.2)
  | '\\' :: e :: cs =>
    match escaped? e with
    | none => none
    | some c => (pieces cs).map fun r => (.char c :: r.1, r.2)
  | c :: cs =>
    if c.toNat < 0x20 || c == '\\' then none
    else (pieces cs).map fun r => (.char c :: r.1, r.2)

def isHighSurrogate (u : Nat) : Bool := 0xD800 ≤ u && u ≤ 0xDBFF

def isLowSurrogate (u : Nat) : Bool := 0xDC00 ≤ u && u ≤ 0xDFFF

/-- The text that the parts of a literal denote: a high surrogate and the low one right behind it
are one character, and neither may stand alone. -/
def decodePieces : List Piece → Option (List Char)
  | [] => some []
  | .char c :: ps => (decodePieces ps).map (c :: ·)
  | .unit u :: .unit l :: ps =>
    if isHighSurrogate u && isLowSurrogate l then
      (decodePieces ps).map (Char.ofNat (0x10000 + (u - 0xD800) * 0x400 + (l - 0xDC00)) :: ·)
    else if isHighSurrogate u || isLowSurrogate u then none
    else (decodePieces (.unit l :: ps)).map (Char.ofNat u :: ·)
  | .unit u :: ps =>
    if isHighSurrogate u || isLowSurrogate u then none
    else (decodePieces ps).map (Char.ofNat u :: ·)

/-- One or more decimal digits. -/
def someDigits (cs : List Char) : Option (List Char × List Char) :=
  let digits := cs.takeWhile Char.isDigit
  if digits == [] then none else some (digits, cs.dropWhile Char.isDigit)

/-- The whole part of a number: a zero alone, or digits that begin with another one. -/
def wholePart : List Char → Option (List Char × List Char)
  | '0' :: cs => some (['0'], cs)
  | cs => someDigits cs

/-- A point and digits, or nothing. -/
def fractionPart : List Char → Option (List Char × List Char)
  | '.' :: cs => (someDigits cs).map fun r => ('.' :: r.1, r.2)
  | cs => some ([], cs)

/-- An exponent mark, a sign or none, and digits; or nothing. -/
def exponentPart : List Char → Option (List Char × List Char)
  | [] => some ([], [])
  | e :: cs =>
    if e == 'e' || e == 'E' then
      match cs with
      | '+' :: ds => (someDigits ds).map fun r => (e :: '+' :: r.1, r.2)
      | '-' :: ds => (someDigits ds).map fun r => (e :: '-' :: r.1, r.2)
      | ds => (someDigits ds).map fun r => (e :: r.1, r.2)
    else some ([], e :: cs)

/-- An unsigned number literal. -/
def magnitude (cs : List Char) : Option (List Char × List Char) := do
  let (whole, cs) ← wholePart cs
  let (fraction, cs) ← fractionPart cs
  let (exponent, cs) ← exponentPart cs
  return (whole ++ fraction ++ exponent, cs)

/-- A number literal. -/
def numberLiteral : List Char → Option (List Char × List Char)
  | '-' :: cs => (magnitude cs).map fun r => ('-' :: r.1, r.2)
  | cs => magnitude cs

/-- The token at the front of a text that begins with no blank, and the text behind it. -/
def token (c : Char) (cs : List Char) : Option (Token × List Char) :=
  match c, cs with
  | '\x7b', cs => some (.leftBrace, cs)
  | '\x7d', cs => some (.rightBrace, cs)
  | '[', cs => some (.leftBracket, cs)
  | ']', cs => some (.rightBracket, cs)
  | ',', cs => some (.comma, cs)
  | ':', cs => some (.colon, cs)
  | '"', cs => (pieces cs).map fun r => (.string ((decodePieces r.1).map String.ofList), r.2)
  | 'n', 'u' :: 'l' :: 'l' :: cs => some (.null, cs)
  | 't', 'r' :: 'u' :: 'e' :: cs => some (.bool true, cs)
  | 'f', 'a' :: 'l' :: 's' :: 'e' :: cs => some (.bool false, cs)
  | c, cs => (numberLiteral (c :: cs)).map fun r => (.number (String.ofList r.1), r.2)

theorem pieces_length {cs : List Char} {r : List Piece × List Char} (h : pieces cs = some r) :
    r.2.length < cs.length := by
  fun_induction pieces cs generalizing r with
  | case1 => simp at h
  | case2 cs => obtain rfl := Option.some.inj h; simp
  | case3 => simp at h
  | case4 a b c d cs u _ ih =>
    obtain ⟨s, hs, rfl⟩ := Option.map_eq_some_iff.1 h
    have := ih hs
    simp only [List.length_cons]
    omega
  | case5 => simp at h
  | case6 e cs _ c _ ih =>
    obtain ⟨s, hs, rfl⟩ := Option.map_eq_some_iff.1 h
    have := ih hs
    simp only [List.length_cons]
    omega
  | case7 => simp at h
  | case8 c cs _ _ _ _ ih =>
    obtain ⟨s, hs, rfl⟩ := Option.map_eq_some_iff.1 h
    have := ih hs
    simp only [List.length_cons]
    omega

theorem someDigits_append {cs : List Char} {r : List Char × List Char}
    (h : someDigits cs = some r) : r.1 ++ r.2 = cs ∧ r.1 ≠ [] := by
  dsimp only [someDigits] at h
  split at h
  · simp at h
  · rename_i hne
    obtain rfl := Option.some.inj h
    exact ⟨List.takeWhile_append_dropWhile, by simpa using hne⟩

theorem wholePart_append {cs : List Char} {r : List Char × List Char}
    (h : wholePart cs = some r) : r.1 ++ r.2 = cs ∧ r.1 ≠ [] := by
  unfold wholePart at h
  split at h
  · obtain rfl := Option.some.inj h; simp
  · exact someDigits_append h

theorem fractionPart_append {cs : List Char} {r : List Char × List Char}
    (h : fractionPart cs = some r) : r.1 ++ r.2 = cs := by
  unfold fractionPart at h
  split at h
  · obtain ⟨s, hs, rfl⟩ := Option.map_eq_some_iff.1 h
    simp [(someDigits_append hs).1]
  · obtain rfl := Option.some.inj h; rfl

theorem exponentPart_append {cs : List Char} {r : List Char × List Char}
    (h : exponentPart cs = some r) : r.1 ++ r.2 = cs := by
  unfold exponentPart at h
  split at h
  · obtain rfl := Option.some.inj h; rfl
  · split at h
    · split at h <;>
      · obtain ⟨s, hs, rfl⟩ := Option.map_eq_some_iff.1 h
        simp [(someDigits_append hs).1]
    · obtain rfl := Option.some.inj h; rfl

theorem magnitude_append {cs : List Char} {r : List Char × List Char}
    (h : magnitude cs = some r) : r.1 ++ r.2 = cs ∧ r.1 ≠ [] := by
  simp only [magnitude, Option.bind_eq_bind, Option.pure_def, Option.bind_eq_some_iff,
    Option.some.injEq] at h
  obtain ⟨⟨w, c₁⟩, hw, ⟨f, c₂⟩, hf, ⟨e, c₃⟩, he, rfl⟩ := h
  have hw := wholePart_append hw
  have hf := fractionPart_append hf
  have he := exponentPart_append he
  simp only at hw hf he
  refine ⟨?_, by simp [hw.2]⟩
  rw [← hw.1, ← hf, ← he]
  simp

theorem numberLiteral_append {cs : List Char} {r : List Char × List Char}
    (h : numberLiteral cs = some r) : r.1 ++ r.2 = cs ∧ r.1 ≠ [] := by
  unfold numberLiteral at h
  split at h
  · obtain ⟨s, hs, rfl⟩ := Option.map_eq_some_iff.1 h
    simp [(magnitude_append hs).1]
  · exact magnitude_append h

theorem token_length {c : Char} {cs : List Char} {r : Token × List Char}
    (h : token c cs = some r) : r.2.length ≤ cs.length := by
  unfold token at h
  split at h
  case h_7 =>
    obtain ⟨s, hs, rfl⟩ := Option.map_eq_some_iff.1 h
    exact Nat.le_of_lt (pieces_length hs)
  case h_11 =>
    obtain ⟨s, hs, rfl⟩ := Option.map_eq_some_iff.1 h
    have hs := numberLiteral_append hs
    have hl := congrArg List.length hs.1
    have := List.length_pos_iff.2 hs.2
    simp only [List.length_append, List.length_cons] at hl
    show s.2.length ≤ _
    omega
  all_goals
    obtain rfl := Option.some.inj h
    simp only [List.length_cons]
    omega

/-- All tokens of a text; `none` if a part of it is no token. -/
def tokens : List Char → Option (List Token)
  | [] => some []
  | c :: cs =>
    if isJsonBlank c then tokens cs
    else
      match _h : token c cs with
      | none => none
      | some (t, rest) => (tokens rest).map (t :: ·)
  termination_by cs => cs.length
  decreasing_by
    · simp
    · have := token_length _h
      simp only [List.length_cons] at this ⊢
      omega

end CSymbols.Json

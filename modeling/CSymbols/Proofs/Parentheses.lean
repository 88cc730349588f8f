import CSymbols.Spelling.Declarator
import Mathlib.Data.List.Basic

/-! Which parenthesis of a spelling closes another one. -/
namespace CSymbols.Spelling

/-- Every parenthesis has its partner. -/
inductive Balanced : List Char → Prop
  | nil : Balanced []
  | char {c : Char} {cs : List Char} (ho : c ≠ '(') (hc : c ≠ ')') (h : Balanced cs) :
      Balanced (c :: cs)
  | group {inner cs : List Char} (hi : Balanced inner) (h : Balanced cs) :
      Balanced ('(' :: (inner ++ ')' :: cs))

/-- So many parentheses are closed, and every other one has its partner. -/
inductive Closes : Nat → List Char → Prop
  | zero {cs : List Char} (h : Balanced cs) : Closes 0 cs
  | succ {depth : Nat} {inner cs : List Char} (hi : Balanced inner) (h : Closes depth cs) :
      Closes (depth + 1) (inner ++ ')' :: cs)

theorem Closes.char {cs : List Char} {depth : Nat} {c : Char} (ho : c ≠ '(') (hc : c ≠ ')')
    (h : Closes depth cs) : Closes depth (c :: cs) := by
  cases h with
  | zero hb => exact .zero (.char ho hc hb)
  | succ hi ht => exact .succ (.char ho hc hi) ht

-- The first of the parentheses that are closed is the one opened here.
theorem Closes.opened {cs : List Char} {depth : Nat} (h : Closes (depth + 1) cs) :
    Closes depth ('(' :: cs) := by
  cases h with
  | @succ _ inner cs hi ht =>
    cases ht with
    | zero hb => exact .zero (.group hi hb)
    | @succ depth inner' cs hi' ht =>
      have he : '(' :: (inner ++ ')' :: (inner' ++ ')' :: cs)) =
          '(' :: (inner ++ ')' :: inner') ++ ')' :: cs := by
        simp
      rw [he]
      exact .succ (.group hi hi') ht

theorem closingParenthesis_opened (depth : Nat) (cs : List Char) :
    closingParenthesis depth ('(' :: cs) =
      (closingParenthesis (depth + 1) cs).map fun r => ('(' :: r.1, r.2) := by
  rw [closingParenthesis.eq_def]
  simp

theorem closingParenthesis_closed (depth : Nat) (cs : List Char) :
    closingParenthesis (depth + 1) (')' :: cs) =
      (closingParenthesis depth cs).map fun r => (')' :: r.1, r.2) := by
  rw [closingParenthesis.eq_def]
  simp

theorem closingParenthesis_found (cs : List Char) :
    closingParenthesis 0 (')' :: cs) = some ([], cs) := by
  rw [closingParenthesis.eq_def]
  simp

theorem closingParenthesis_char {c : Char} (ho : c ≠ '(') (hc : c ≠ ')') (depth : Nat)
    (cs : List Char) : closingParenthesis depth (c :: cs) =
      (closingParenthesis depth cs).map fun r => (c :: r.1, r.2) := by
  rw [closingParenthesis.eq_def]
  simp [ho, hc]

theorem closingParenthesis_balanced {inner : List Char} (h : Balanced inner) (depth : Nat)
    (cs : List Char) : closingParenthesis depth (inner ++ cs) =
      (closingParenthesis depth cs).map fun r => (inner ++ r.1, r.2) := by
  induction h generalizing depth cs with
  | nil => simp
  | char ho hc h ih =>
    rw [List.cons_append, closingParenthesis_char ho hc, ih, Option.map_map]
    rfl
  | @group inner after hi h ihi ih =>
    have he : '(' :: (inner ++ ')' :: after) ++ cs = '(' :: (inner ++ ')' :: (after ++ cs)) := by
      simp
    rw [he, closingParenthesis_opened, ihi, closingParenthesis_closed, ih]
    simp [Function.comp_def]

theorem closes_of_closingParenthesis {depth : Nat} {cs inner rest : List Char}
    (h : closingParenthesis depth cs = some (inner, rest)) :
    cs = inner ++ ')' :: rest ∧ Closes depth inner := by
  induction cs generalizing depth inner with
  | nil => simp [closingParenthesis] at h
  | cons c cs ih =>
    by_cases hc : c = ')'
    · subst hc
      cases depth with
      | zero =>
        rw [closingParenthesis_found] at h
        obtain ⟨rfl, rfl⟩ : [] = inner ∧ cs = rest := by simpa using h
        exact ⟨rfl, .zero .nil⟩
      | succ depth =>
        rw [closingParenthesis_closed] at h
        obtain ⟨⟨inner', rest'⟩, hr, he⟩ := Option.map_eq_some_iff.1 h
        obtain ⟨rfl, rfl⟩ : ')' :: inner' = inner ∧ rest' = rest := by simpa using he
        obtain ⟨rfl, ht⟩ := ih hr
        exact ⟨rfl, .succ .nil ht⟩
    · by_cases ho : c = '('
      · subst ho
        rw [closingParenthesis_opened] at h
        obtain ⟨⟨inner', rest'⟩, hr, he⟩ := Option.map_eq_some_iff.1 h
        obtain ⟨rfl, rfl⟩ : '(' :: inner' = inner ∧ rest' = rest := by simpa using he
        obtain ⟨rfl, ht⟩ := ih hr
        exact ⟨rfl, ht.opened⟩
      · rw [closingParenthesis_char ho hc] at h
        obtain ⟨⟨inner', rest'⟩, hr, he⟩ := Option.map_eq_some_iff.1 h
        obtain ⟨rfl, rfl⟩ : c :: inner' = inner ∧ rest' = rest := by simpa using he
        obtain ⟨rfl, ht⟩ := ih hr
        exact ⟨rfl, ht.char ho hc⟩

/-- The partner of a parenthesis stands behind the balanced text that follows. -/
theorem closingParenthesis_eq_some_iff {cs inner rest : List Char} :
    closingParenthesis 0 cs = some (inner, rest) ↔
      Balanced inner ∧ cs = inner ++ ')' :: rest := by
  constructor
  · intro h
    obtain ⟨rfl, ht⟩ := closes_of_closingParenthesis h
    cases ht with
    | zero hb => exact ⟨hb, rfl⟩
  · rintro ⟨hb, rfl⟩
    rw [closingParenthesis_balanced hb, closingParenthesis_found]
    simp

/-- An operand is passed over as a whole; one that is not closed reaches to the end. -/
theorem openingParenthesis_operand (angle depth : Nat) (reversed cs : List Char) :
    openingParenthesis angle (depth + 1) reversed cs =
      match closingParenthesis depth cs with
      | none => .ok none
      | some (inner, rest) =>
        openingParenthesis angle 0 (')' :: inner.reverse ++ reversed) rest := by
  induction cs generalizing depth reversed with
  | nil => simp [openingParenthesis, closingParenthesis]
  | cons c cs ih =>
    have hstep : openingParenthesis angle (depth + 1) reversed (c :: cs) =
        openingParenthesis angle
          (if c == '(' then depth + 2 else if c == ')' then depth else depth + 1)
          (c :: reversed) cs := by
      rw [openingParenthesis.eq_def]
    rw [hstep]
    by_cases hc : c = ')'
    · subst hc
      cases depth with
      | zero => rw [closingParenthesis_found]; simp
      | succ depth =>
        rw [closingParenthesis_closed, if_neg (by decide), if_pos (by decide), ih]
        cases closingParenthesis depth cs <;> simp
    · by_cases ho : c = '('
      · subst ho
        rw [closingParenthesis_opened, if_pos (by decide), ih]
        cases closingParenthesis (depth + 1) cs <;> simp
      · rw [closingParenthesis_char ho hc, if_neg (by simpa using ho), if_neg (by simpa using hc),
          ih]
        cases closingParenthesis depth cs <;> simp

end CSymbols.Spelling

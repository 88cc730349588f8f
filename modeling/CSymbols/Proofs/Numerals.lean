import CSymbols.Text.Decimal
import Mathlib.Data.Nat.Basic

/-! Numbers in positional notation are read back as they were written. -/
namespace CSymbols.Text

/-- Reads one more digit. -/
def appendDigit? (base n : Nat) (c : Char) : Option Nat := do
  let d ← hexDigit? c
  if d < base then some (base * n + d) else none

theorem digitsValue?_eq {base : Nat} {cs : List Char} (h : cs ≠ []) :
    digitsValue? base cs = cs.foldlM (appendDigit? base) 0 := by
  cases cs with
  | nil => exact absurd rfl h
  | cons c cs => rfl

theorem hexDigit?_digitChar : ∀ d < 16, hexDigit? (digitChar d) = some d := by decide

theorem appendDigit?_digitChar {base d : Nat} (hb : base ≤ 16) (hd : d < base) (n : Nat) :
    appendDigit? base n (digitChar d) = some (base * n + d) := by
  rw [appendDigit?, hexDigit?_digitChar d (by omega)]
  simp [hd]

/-- A notation whose last digit is the remainder and whose other digits are the quotient. -/
theorem foldlM_positional {base : Nat} (h₂ : 2 ≤ base) (h₁₆ : base ≤ 16) {digits : Nat → List Char}
    (h : ∀ n, digits n =
      if n < base then [digitChar n] else digits (n / base) ++ [digitChar (n % base)]) (n : Nat) :
    (digits n).foldlM (appendDigit? base) 0 = some n := by
  induction n using Nat.strong_induction_on with
  | _ n ih =>
    rw [h n]
    split_ifs with hn
    · simpa using appendDigit?_digitChar h₁₆ hn 0
    · have hq : n / base < n := Nat.div_lt_self (by omega) h₂
      have hr : n % base < base := Nat.mod_lt n (by omega)
      rw [List.foldlM_append, ih _ hq]
      have hd := appendDigit?_digitChar h₁₆ hr (n / base)
      rw [Nat.div_add_mod] at hd
      simpa using hd

theorem decimal_ne_nil (n : Nat) : decimal n ≠ [] := by
  rw [decimal]
  split_ifs <;> simp

theorem hexadecimal_ne_nil (n : Nat) : hexadecimal n ≠ [] := by
  rw [hexadecimal]
  split_ifs <;> simp

theorem digitsValue?_decimal (n : Nat) : digitsValue? 10 (decimal n) = some n := by
  rw [digitsValue?_eq (decimal_ne_nil n)]
  exact foldlM_positional (by decide) (by decide) (fun n => decimal.eq_def n) n

theorem digitsValue?_hexadecimal (n : Nat) : digitsValue? 16 (hexadecimal n) = some n := by
  rw [digitsValue?_eq (hexadecimal_ne_nil n)]
  exact foldlM_positional (by decide) (by decide) (fun n => hexadecimal.eq_def n) n

theorem nat?_natText (n : Nat) : nat? (natText n) = some n := by
  rw [nat?, natText, String.toList_ofList, digitsValue?_decimal]

theorem isDigit_digitChar : ∀ d < 10, (digitChar d).isDigit := by decide

theorem isDigit_of_mem_decimal {n : Nat} {c : Char} (h : c ∈ decimal n) : c.isDigit := by
  induction n using Nat.strong_induction_on with
  | _ n ih =>
    rw [decimal] at h
    split_ifs at h with hn
    · rw [List.mem_singleton.1 h]
      exact isDigit_digitChar n hn
    · rcases List.mem_append.1 h with h | h
      · exact ih (n / 10) (by omega) h
      · rw [List.mem_singleton.1 h]
        exact isDigit_digitChar (n % 10) (by omega)

/-- No number but zero begins with the digit zero. -/
theorem decimal_head_ne_zero {n : Nat} (h : n ≠ 0) : (decimal n).head? ≠ some '0' := by
  have hd : ∀ d < 10, d ≠ 0 → digitChar d ≠ '0' := by decide
  induction n using Nat.strong_induction_on with
  | _ n ih =>
    rw [decimal]
    split_ifs with hn
    · simpa using hd n hn h
    · rw [List.head?_append, Option.or_of_isSome (by simp [decimal_ne_nil])]
      exact ih (n / 10) (by omega) (by omega)

end CSymbols.Text

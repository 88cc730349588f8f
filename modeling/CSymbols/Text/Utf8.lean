import CSymbols.Text.Decimal

/-! Decoding UTF-8, either up to the first fault or with a replacement character for each. -/
namespace CSymbols.Text.Utf8

/-- The bits that a lead byte contributes, and the ranges of the bytes that have to follow it. -/
def lead? (b : Nat) : Option (Nat × List (Nat × Nat)) :=
  let tail := (0x80, 0xBF)
  if b < 0x80 then some (b, [])
  else if 0xC2 ≤ b && b ≤ 0xDF then some (b - 0xC0, [tail])
  else if b == 0xE0 then some (0, [(0xA0, 0xBF), tail])
  else if b == 0xED then some (0xD, [(0x80, 0x9F), tail])
  else if 0xE1 ≤ b && b ≤ 0xEF then some (b - 0xE0, [tail, tail])
  else if b == 0xF0 then some (0, [(0x90, 0xBF), tail, tail])
  else if 0xF1 ≤ b && b ≤ 0xF3 then some (b - 0xF0, [tail, tail, tail])
  else if b == 0xF4 then some (4, [(0x80, 0x8F), tail, tail])
  else none

/-- What stands at the front of some bytes. -/
inductive Front where
  | char (c : Char) (rest : List UInt8)
  /-- So many bytes that belong to no character, followed by one that cannot continue them. -/
  | bad (length : Nat) (rest : List UInt8)
  /-- The bytes end inside a character. -/
  | incomplete
  deriving DecidableEq, Repr

/-- Reads the bytes behind a lead byte; `taken` counts the bytes before. -/
def follow (bits taken : Nat) : List (Nat × Nat) → List UInt8 → Front
  | [], rest => .char (Char.ofNat bits) rest
  | _ :: _, [] => .incomplete
  | (low, high) :: ranges, b :: bs =>
    if low ≤ b.toNat && b.toNat ≤ high then
      follow (bits * 64 + (b.toNat - 0x80)) (taken + 1) ranges bs
    else .bad taken (b :: bs)

def front (b : UInt8) (bs : List UInt8) : Front :=
  match lead? b.toNat with
  | none => .bad 1 bs
  | some (bits, ranges) => follow bits 1 ranges bs

/-- Where bytes stop being UTF-8. -/
structure Fault where
  index : Nat
  /-- The number of bytes that belong to no character; `none` if the bytes end too early. -/
  length : Option Nat
  deriving DecidableEq, Repr

def Fault.message (f : Fault) : String :=
  match f.length with
  | some n =>
    "invalid utf-8 sequence of " ++ natText n ++ " bytes from index " ++ natText f.index
  | none => "incomplete utf-8 byte sequence from index " ++ natText f.index

theorem follow_char_length {bits taken : Nat} {ranges : List (Nat × Nat)} {bs rest : List UInt8}
    {c : Char} (h : follow bits taken ranges bs = .char c rest) : rest.length ≤ bs.length := by
  induction ranges generalizing bits taken bs with
  | nil => simp only [follow, Front.char.injEq] at h; simp [h.2]
  | cons r ranges ih =>
    cases bs with
    | nil => simp [follow] at h
    | cons b bs =>
      simp only [follow] at h
      split at h
      · exact Nat.le_succ_of_le (ih h)
      · simp at h

theorem follow_bad_length {bits taken n : Nat} {ranges : List (Nat × Nat)} {bs rest : List UInt8}
    (h : follow bits taken ranges bs = .bad n rest) : rest.length ≤ bs.length := by
  induction ranges generalizing bits taken bs with
  | nil => simp [follow] at h
  | cons r ranges ih =>
    cases bs with
    | nil => simp [follow] at h
    | cons b bs =>
      simp only [follow] at h
      split at h
      · exact Nat.le_succ_of_le (ih h)
      · simp only [Front.bad.injEq] at h; simp [← h.2]

theorem front_char_length {b : UInt8} {bs rest : List UInt8} {c : Char}
    (h : front b bs = .char c rest) : rest.length ≤ bs.length := by
  unfold front at h
  split at h
  · simp at h
  · exact follow_char_length h

theorem front_bad_length {b : UInt8} {bs rest : List UInt8} {n : Nat}
    (h : front b bs = .bad n rest) : rest.length ≤ bs.length := by
  unfold front at h
  split at h
  · simp only [Front.bad.injEq] at h; simp [h.2]
  · exact follow_bad_length h

/-- The characters of some bytes, or their first fault; `index` counts the bytes before. -/
def decode (index : Nat) : List UInt8 → Except Fault (List Char)
  | [] => .ok []
  | b :: bs =>
    match _h : front b bs with
    | .incomplete => .error ⟨index, none⟩
    | .bad n _ => .error ⟨index, some n⟩
    | .char c rest => (decode (index + c.utf8Size) rest).map (c :: ·)
  termination_by bs => bs.length
  decreasing_by
    have := front_char_length _h
    simp only [List.length_cons]
    omega

/-- The character that stands for bytes that belong to none. -/
def replacement : Char := '\ufffd'

/-- The characters of some bytes, with one replacement for each fault. -/
def decodeLossy : List UInt8 → List Char
  | [] => []
  | b :: bs =>
    match _h : front b bs with
    | .incomplete => [replacement]
    | .bad _ rest => replacement :: decodeLossy rest
    | .char c rest => c :: decodeLossy rest
  termination_by bs => bs.length
  decreasing_by
    · have := front_bad_length _h
      simp only [List.length_cons]
      omega
    · have := front_char_length _h
      simp only [List.length_cons]
      omega

/-- The text of some bytes. -/
def text? (bytes : List UInt8) : Except Fault String := (decode 0 bytes).map String.ofList

/-- The text of some bytes, with one replacement for each fault. -/
def lossyText (bytes : List UInt8) : String := String.ofList (decodeLossy bytes)

end CSymbols.Text.Utf8

import CSymbols.Text.Utf8
import Mathlib.Data.List.Forall2

/-! Bytes are decoded as a text just if they are its encoding in UTF-8. -/
namespace CSymbols.Text.Utf8

/-- The bytes are the encoding of a text. -/
def Encodes (text : String) (bytes : List UInt8) : Prop := text.toUTF8.data.toList = bytes

/-- The six bits that each byte behind the first one adds to a number. -/
def appendBits (bits : Nat) (bs : List UInt8) : Nat :=
  bs.foldl (fun n b => n * 64 + (b.toNat - 0x80)) bits

theorem appendBits_cons (bits : Nat) (b : UInt8) (bs : List UInt8) :
    appendBits bits (b :: bs) = appendBits (bits * 64 + (b.toNat - 0x80)) bs :=
  List.foldl_cons ..

/-- The bytes behind a lead byte are taken in as long as each of them is in its range. -/
theorem follow_eq_char_iff {bits taken : Nat} {ranges : List (Nat × Nat)} {bs rest : List UInt8}
    {c : Char} : follow bits taken ranges bs = .char c rest ↔ ∃ front, bs = front ++ rest ∧
      List.Forall₂ (fun r b => r.1 ≤ b.toNat ∧ b.toNat ≤ r.2) ranges front ∧
      c = Char.ofNat (appendBits bits front) := by
  induction ranges generalizing bits taken bs with
  | nil =>
    rw [follow]
    constructor
    · intro h
      cases h
      exact ⟨[], rfl, .nil, rfl⟩
    · rintro ⟨front, rfl, hf, rfl⟩
      cases hf
      rfl
  | cons r ranges ih =>
    obtain ⟨low, high⟩ := r
    cases bs with
    | nil =>
      rw [follow]
      constructor
      · intro h
        cases h
      · rintro ⟨front, he, hf, -⟩
        cases hf
        cases he
    | cons b bs =>
      rw [follow]
      constructor
      · intro h
        split at h
        · next hb =>
          obtain ⟨front, rfl, hf, rfl⟩ := ih.1 h
          exact ⟨b :: front, rfl, .cons (by simpa using hb) hf, by rw [appendBits_cons]⟩
        · cases h
      · rintro ⟨front, he, hf, hc⟩
        cases hf with
        | @cons _ b' _ front hb hf =>
          obtain ⟨rfl, rfl⟩ := List.cons.inj he
          rw [appendBits_cons] at hc
          rw [if_pos (by simpa using hb)]
          exact ih.2 ⟨front, rfl, hf, hc⟩

theorem lead?_one {b : Nat} (h : b < 0x80) : lead? b = some (b, []) := by
  simp [lead?, h]

theorem lead?_two {b : Nat} (h : 0xC2 ≤ b) (h' : b ≤ 0xDF) :
    lead? b = some (b - 0xC0, [(0x80, 0xBF)]) := by
  rw [lead?, if_neg (by omega), if_pos (by simp [h, h'])]

/-- The second byte of three is bounded so that the number has no shorter encoding and is no half of
a surrogate pair. -/
theorem lead?_three {b : Nat} (h : 0xE0 ≤ b) (h' : b ≤ 0xEF) :
    lead? b = some (b - 0xE0, [(if b = 0xE0 then 0xA0 else 0x80, if b = 0xED then 0x9F else 0xBF),
      (0x80, 0xBF)]) := by
  by_cases h₁ : b = 0xE0
  · subst h₁
    rfl
  by_cases h₂ : b = 0xED
  · subst h₂
    rfl
  simp only [lead?, Bool.and_eq_true, decide_eq_true_eq, beq_iff_eq]
  rw [if_neg (by omega), if_neg (by omega), if_neg h₁, if_neg h₂, if_pos (by omega), if_neg h₁,
    if_neg h₂]

theorem lead?_four {b : Nat} (h : 0xF0 ≤ b) (h' : b ≤ 0xF4) :
    lead? b = some (b - 0xF0, [(if b = 0xF0 then 0x90 else 0x80, if b = 0xF4 then 0x8F else 0xBF),
      (0x80, 0xBF), (0x80, 0xBF)]) := by
  by_cases h₁ : b = 0xF0
  · subst h₁
    rfl
  by_cases h₂ : b = 0xF4
  · subst h₂
    rfl
  simp only [lead?, Bool.and_eq_true, decide_eq_true_eq, beq_iff_eq]
  rw [if_neg (by omega), if_neg (by omega), if_neg (by omega), if_neg (by omega), if_neg (by omega),
    if_neg h₁, if_pos (by omega), if_neg h₁, if_neg h₂]

theorem lead?_none {b : Nat} (h : 0x80 ≤ b) (h₁ : b < 0xC2 ∨ 0xDF < b) (h₂ : b < 0xE0 ∨ 0xF4 < b) :
    lead? b = none := by
  simp only [lead?, Bool.and_eq_true, decide_eq_true_eq, beq_iff_eq]
  rw [if_neg (by omega), if_neg (by omega), if_neg (by omega), if_neg (by omega), if_neg (by omega),
    if_neg (by omega), if_neg (by omega), if_neg (by omega)]

/-- The bytes of a character, by its number. -/
def codes (n : Nat) : List Nat :=
  if n ≤ 0x7F then [n]
  else if n ≤ 0x7FF then [n / 64 + 0xC0, n % 64 + 0x80]
  else if n ≤ 0xFFFF then [n / 4096 + 0xE0, n / 64 % 64 + 0x80, n % 64 + 0x80]
  else [n / 262144 + 0xF0, n / 4096 % 64 + 0x80, n / 64 % 64 + 0x80, n % 64 + 0x80]

theorem toNat_isValid (c : Char) : c.toNat.isValidChar := c.valid

theorem map_toNat_utf8EncodeChar (c : Char) :
    (String.utf8EncodeChar c).map UInt8.toNat = codes c.toNat := by
  have hv := toNat_isValid c
  unfold Nat.isValidChar at hv
  have hval : c.val.toNat = c.toNat := rfl
  simp only [String.utf8EncodeChar, hval, codes]
  split_ifs
  all_goals simp only [List.map_cons, List.map_nil, UInt8.toNat_ofNat', List.cons.injEq, and_true]
  all_goals omega

theorem toNat_ofNat_of_valid {n : Nat} (h : n.isValidChar) : (Char.ofNat n).toNat = n := by
  rw [Char.ofNat, dif_pos h]
  rfl

/-- The number that two bytes denote is encoded by them. -/
theorem codes_two {a b : Nat} (ha : 0xC2 ≤ a ∧ a ≤ 0xDF) (hb : 0x80 ≤ b ∧ b ≤ 0xBF) :
    ((a - 0xC0) * 64 + (b - 0x80)).isValidChar ∧
      codes ((a - 0xC0) * 64 + (b - 0x80)) = [a, b] := by
  refine ⟨.inl (by omega), ?_⟩
  rw [codes, if_neg (by omega), if_pos (by omega)]
  simp only [List.cons.injEq, and_true]
  omega

theorem codes_three {a b c : Nat} (ha : 0xE0 ≤ a ∧ a ≤ 0xEF)
    (hb : (if a = 0xE0 then 0xA0 else 0x80) ≤ b ∧ b ≤ if a = 0xED then 0x9F else 0xBF)
    (hc : 0x80 ≤ c ∧ c ≤ 0xBF) :
    (((a - 0xE0) * 64 + (b - 0x80)) * 64 + (c - 0x80)).isValidChar ∧
      codes (((a - 0xE0) * 64 + (b - 0x80)) * 64 + (c - 0x80)) = [a, b, c] := by
  have hbound : 0x80 ≤ b ∧ b ≤ 0xBF ∧ (a = 0xE0 → 0xA0 ≤ b) ∧ (a = 0xED → b ≤ 0x9F) := by
    split_ifs at hb <;> omega
  constructor
  · unfold Nat.isValidChar
    omega
  · rw [codes, if_neg (by omega), if_neg (by omega), if_pos (by omega)]
    simp only [List.cons.injEq, and_true]
    omega

theorem codes_four {a b c d : Nat} (ha : 0xF0 ≤ a ∧ a ≤ 0xF4)
    (hb : (if a = 0xF0 then 0x90 else 0x80) ≤ b ∧ b ≤ if a = 0xF4 then 0x8F else 0xBF)
    (hc : 0x80 ≤ c ∧ c ≤ 0xBF) (hd : 0x80 ≤ d ∧ d ≤ 0xBF) :
    ((((a - 0xF0) * 64 + (b - 0x80)) * 64 + (c - 0x80)) * 64 + (d - 0x80)).isValidChar ∧
      codes ((((a - 0xF0) * 64 + (b - 0x80)) * 64 + (c - 0x80)) * 64 + (d - 0x80)) =
        [a, b, c, d] := by
  have hbound : 0x80 ≤ b ∧ b ≤ 0xBF ∧ (a = 0xF0 → 0x90 ≤ b) ∧ (a = 0xF4 → b ≤ 0x8F) := by
    split_ifs at hb <;> omega
  constructor
  · unfold Nat.isValidChar
    omega
  · rw [codes, if_neg (by omega), if_neg (by omega), if_neg (by omega)]
    simp only [List.cons.injEq, and_true]
    omega

/-- What is read at the front of bytes as a character encodes it. -/
theorem codes_of_front {b : UInt8} {bs rest : List UInt8} {c : Char}
    (h : front b bs = .char c rest) :
    ∃ bytes, b :: bs = bytes ++ rest ∧ bytes.map UInt8.toNat = codes c.toNat := by
  unfold front at h
  split at h
  · cases h
  · next bits ranges hlead =>
    obtain ⟨bytes, rfl, hf, rfl⟩ := follow_eq_char_iff.1 h
    refine ⟨b :: bytes, rfl, ?_⟩
    by_cases h₁ : b.toNat < 0x80
    · rw [lead?_one h₁] at hlead
      cases hlead
      cases hf
      have hv : b.toNat.isValidChar := .inl (by omega)
      rw [appendBits, List.foldl_nil, toNat_ofNat_of_valid hv, codes, if_pos (by omega)]
      rfl
    by_cases h₂ : 0xC2 ≤ b.toNat ∧ b.toNat ≤ 0xDF
    · rw [lead?_two h₂.1 h₂.2, Option.some.injEq, Prod.mk.injEq] at hlead
      obtain ⟨rfl, rfl⟩ := hlead
      rcases hf with _ | ⟨hb, _ | _⟩
      obtain ⟨hv, hcodes⟩ := codes_two h₂ hb
      rw [appendBits_cons, appendBits, List.foldl_nil, toNat_ofNat_of_valid hv, hcodes]
      rfl
    by_cases h₃ : 0xE0 ≤ b.toNat ∧ b.toNat ≤ 0xEF
    · rw [lead?_three h₃.1 h₃.2, Option.some.injEq, Prod.mk.injEq] at hlead
      obtain ⟨rfl, rfl⟩ := hlead
      rcases hf with _ | ⟨hb, _ | ⟨hc, _ | _⟩⟩
      obtain ⟨hv, hcodes⟩ := codes_three h₃ hb hc
      rw [appendBits_cons, appendBits_cons, appendBits, List.foldl_nil, toNat_ofNat_of_valid hv,
        hcodes]
      rfl
    by_cases h₄ : 0xF0 ≤ b.toNat ∧ b.toNat ≤ 0xF4
    · rw [lead?_four h₄.1 h₄.2, Option.some.injEq, Prod.mk.injEq] at hlead
      obtain ⟨rfl, rfl⟩ := hlead
      rcases hf with _ | ⟨hb, _ | ⟨hc, _ | ⟨hd, _ | _⟩⟩⟩
      obtain ⟨hv, hcodes⟩ := codes_four h₄ hb hc hd
      rw [appendBits_cons, appendBits_cons, appendBits_cons, appendBits, List.foldl_nil,
        toNat_ofNat_of_valid hv, hcodes]
      rfl
    · rw [lead?_none (by omega) (by omega) (by omega)] at hlead
      cases hlead

theorem front_of_lead? {b : UInt8} {bits : Nat} {ranges : List (Nat × Nat)} {bytes : List UInt8}
    {c : Char} (hlead : lead? b.toNat = some (bits, ranges))
    (hf : List.Forall₂ (fun r b => r.1 ≤ b.toNat ∧ b.toNat ≤ r.2) ranges bytes)
    (hc : c.toNat = appendBits bits bytes) (rest : List UInt8) :
    front b (bytes ++ rest) = .char c rest := by
  rw [front, hlead]
  apply follow_eq_char_iff.2
  refine ⟨bytes, rfl, hf, ?_⟩
  rw [← hc, Char.ofNat_toNat]

/-- The encoding of a character is read at the front of bytes. -/
theorem front_of_codes {b : UInt8} {bs : List UInt8} {c : Char}
    (h : (b :: bs).map UInt8.toNat = codes c.toNat) (rest : List UInt8) :
    front b (bs ++ rest) = .char c rest := by
  have hv := toNat_isValid c
  unfold Nat.isValidChar at hv
  rw [List.map_cons, codes] at h
  split_ifs at h with h₁ h₂ h₃
  · obtain ⟨hb, hbs⟩ := List.cons.inj h
    obtain rfl := List.map_eq_nil_iff.1 hbs
    exact front_of_lead? (lead?_one (by omega)) .nil (by simp [appendBits, hb]) rest
  · obtain ⟨hb, hbs⟩ := List.cons.inj h
    obtain ⟨x, xs, rfl, hx, hxs⟩ := List.map_eq_cons_iff.1 hbs
    obtain rfl := List.map_eq_nil_iff.1 hxs
    refine front_of_lead? (lead?_two (by omega) (by omega))
      (.cons ⟨by omega, by omega⟩ .nil) ?_ rest
    simp only [appendBits, List.foldl_cons, List.foldl_nil]
    omega
  · obtain ⟨hb, hbs⟩ := List.cons.inj h
    obtain ⟨x, xs, rfl, hx, hxs⟩ := List.map_eq_cons_iff.1 hbs
    obtain ⟨y, ys, rfl, hy, hys⟩ := List.map_eq_cons_iff.1 hxs
    obtain rfl := List.map_eq_nil_iff.1 hys
    refine front_of_lead? (lead?_three (by omega) (by omega))
      (.cons ?_ (.cons ⟨by omega, by omega⟩ .nil)) ?_ rest
    · split_ifs <;> omega
    · simp only [appendBits, List.foldl_cons, List.foldl_nil]
      omega
  · obtain ⟨hb, hbs⟩ := List.cons.inj h
    obtain ⟨x, xs, rfl, hx, hxs⟩ := List.map_eq_cons_iff.1 hbs
    obtain ⟨y, ys, rfl, hy, hys⟩ := List.map_eq_cons_iff.1 hxs
    obtain ⟨z, zs, rfl, hz, hzs⟩ := List.map_eq_cons_iff.1 hys
    obtain rfl := List.map_eq_nil_iff.1 hzs
    refine front_of_lead? (lead?_four (by omega) (by omega))
      (.cons ?_ (.cons ⟨by omega, by omega⟩ (.cons ⟨by omega, by omega⟩ .nil))) ?_ rest
    · split_ifs <;> omega
    · simp only [appendBits, List.foldl_cons, List.foldl_nil]
      omega

theorem map_toNat_eq_codes_iff {bytes : List UInt8} {c : Char} :
    bytes.map UInt8.toNat = codes c.toNat ↔ bytes = String.utf8EncodeChar c := by
  have hinj : Function.Injective UInt8.toNat := fun a b h => UInt8.toNat_inj.1 h
  rw [← map_toNat_utf8EncodeChar]
  exact hinj.list_map.eq_iff

/-- A character is read at the front of bytes just if they begin with its encoding. -/
theorem front_eq_char_iff {b : UInt8} {bs rest : List UInt8} {c : Char} :
    front b bs = .char c rest ↔ b :: bs = String.utf8EncodeChar c ++ rest := by
  constructor
  · intro h
    obtain ⟨bytes, he, hcodes⟩ := codes_of_front h
    rw [he, map_toNat_eq_codes_iff.1 hcodes]
  · intro h
    cases hc : String.utf8EncodeChar c with
    | nil => exact absurd hc String.utf8EncodeChar_ne_nil
    | cons b' bs' =>
      rw [hc, List.cons_append] at h
      obtain ⟨rfl, rfl⟩ := List.cons.inj h
      exact front_of_codes (map_toNat_eq_codes_iff.2 hc.symm) rest

theorem decode_char {b : UInt8} {bs rest : List UInt8} {c : Char} (h : front b bs = .char c rest)
    (index : Nat) :
    decode index (b :: bs) = (decode (index + c.utf8Size) rest).map (c :: ·) := by
  rw [decode]
  split
  · next he => rw [h] at he; cases he
  · next he => rw [h] at he; cases he
  · next he =>
    rw [h] at he
    cases he
    rfl

theorem decode_encoding (cs : List Char) (index : Nat) :
    decode index (cs.flatMap String.utf8EncodeChar) = .ok cs := by
  induction cs generalizing index with
  | nil => rw [List.flatMap_nil, decode]
  | cons c cs ih =>
    rw [List.flatMap_cons]
    cases he : String.utf8EncodeChar c ++ cs.flatMap String.utf8EncodeChar with
    | nil => exact absurd (List.append_eq_nil_iff.1 he).1 String.utf8EncodeChar_ne_nil
    | cons b bs =>
      rw [decode_char (front_eq_char_iff.2 he.symm), ih]
      rfl

theorem decode_eq_ok_iff {index : Nat} {bytes : List UInt8} {cs : List Char} :
    decode index bytes = .ok cs ↔ bytes = cs.flatMap String.utf8EncodeChar := by
  constructor
  · intro h
    fun_induction decode index bytes generalizing cs with
    | case1 =>
      cases h
      rfl
    | case2 => cases h
    | case3 => cases h
    | case4 index b bs c rest hc ih =>
      cases hr : decode (index + c.utf8Size) rest with
      | error fault =>
        rw [hr] at h
        cases h
      | ok ds =>
        rw [hr] at h
        cases h
        rw [front_eq_char_iff.1 hc, ih hr, List.flatMap_cons]
  · intro h
    rw [h, decode_encoding]

theorem toUTF8_toList (text : String) :
    text.toUTF8.data.toList = text.toList.flatMap String.utf8EncodeChar := by
  have htext : text.toUTF8 = text.toList.utf8Encode := by
    conv_lhs => rw [String.toUTF8_eq_toByteArray, ← String.ofList_toList (s := text)]
    exact String.toByteArray_ofList
  rw [htext, List.utf8Encode, List.data_toByteArray]

/-- Bytes have a text just if they are its encoding. -/
theorem text?_eq_ok_iff {bytes : List UInt8} {text : String} :
    text? bytes = .ok text ↔ Encodes text bytes := by
  have hdecode : text? bytes = .ok text ↔ decode 0 bytes = .ok text.toList := by
    unfold text?
    cases decode 0 bytes with
    | error fault => simp [Except.map]
    | ok cs => simp [Except.map, String.ext_iff]
  rw [hdecode, decode_eq_ok_iff, Encodes, toUTF8_toList]
  exact eq_comm

theorem Encodes.unique {text text' : String} {bytes : List UInt8} (h : Encodes text bytes)
    (h' : Encodes text' bytes) : text = text' := by
  have hread := text?_eq_ok_iff.2 h
  rw [text?_eq_ok_iff.2 h'] at hread
  exact (Except.ok.inj hread).symm

end CSymbols.Text.Utf8

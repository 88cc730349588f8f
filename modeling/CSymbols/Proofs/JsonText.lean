import CSymbols.Json.Writer
import CSymbols.Proofs.JsonGrammar
import CSymbols.Proofs.Numerals
import Mathlib.Data.List.TakeWhile

/-! JSON texts: the tokens of a text do not depend on what follows behind a delimiter, and the text
that is written for a value has the tokens that spell it. -/
namespace CSymbols.Json

/-- A character that cannot go on with a number, so that every token ends in front of it. -/
def Delimits (c : Char) : Prop := ¬ c.isDigit ∧ c ≠ '.' ∧ c ≠ 'e' ∧ c ≠ 'E'

instance (c : Char) : Decidable (Delimits c) := inferInstanceAs (Decidable (_ ∧ _))

theorem pieces_char {c : Char} (hq : c ≠ '"') (hb : c ≠ '\\') (h : ¬ c.toNat < 0x20)
    (cs : List Char) :
    pieces (c :: cs) = (pieces cs).map fun r => (.char c :: r.1, r.2) := by
  rw [pieces.eq_def]
  split
  · next he => cases he
  · next he => exact absurd (List.cons.inj he).1 hq
  · next he => exact absurd (List.cons.inj he).1 hb
  · next he => exact absurd (List.cons.inj he).1 hb
  · next he =>
    obtain ⟨rfl, rfl⟩ := List.cons.inj he
    simp [h, hb]

theorem pieces_escape {e c : Char} (h : escaped? e = some c) (cs : List Char) :
    pieces ('\\' :: e :: cs) = (pieces cs).map fun r => (.char c :: r.1, r.2) := by
  rw [pieces.eq_def]
  split
  · next he => cases he
  · next he => exact absurd (List.cons.inj he).1 (by decide)
  · next he =>
    obtain ⟨-, he'⟩ := List.cons.inj he
    obtain ⟨rfl, -⟩ := List.cons.inj he'
    cases h
  · next he =>
    obtain ⟨-, he'⟩ := List.cons.inj he
    obtain ⟨rfl, rfl⟩ := List.cons.inj he'
    rw [h]
  · next hn he =>
    obtain ⟨rfl, rfl⟩ := List.cons.inj he
    exact absurd rfl (hn _ _ rfl)

theorem pieces_append {cs : List Char} {r : List Piece × List Char} (h : pieces cs = some r)
    (s : List Char) : pieces (cs ++ s) = some (r.1, r.2 ++ s) := by
  fun_induction pieces cs generalizing r with
  | case1 => cases h
  | case2 cs =>
    obtain rfl := Option.some.inj h
    rfl
  | case3 => cases h
  | case4 a b c d cs u hu ih =>
    obtain ⟨r', hr, rfl⟩ := Option.map_eq_some_iff.1 h
    simp only [List.cons_append]
    rw [pieces, hu]
    simp [ih hr]
  | case5 => cases h
  | case6 e cs _ c he ih =>
    obtain ⟨r', hr, rfl⟩ := Option.map_eq_some_iff.1 h
    rw [List.cons_append, List.cons_append, pieces_escape he, ih hr]
    rfl
  | case7 => cases h
  | case8 c cs hq _ _ hc ih =>
    obtain ⟨r', hr, rfl⟩ := Option.map_eq_some_iff.1 h
    simp only [Bool.or_eq_true, decide_eq_true_eq, beq_iff_eq, not_or] at hc
    rw [List.cons_append, pieces_char hq hc.2 hc.1, ih hr]
    rfl

theorem someDigits_append_delimiter {cs : List Char} {r : List Char × List Char}
    (h : someDigits cs = some r) {c : Char} (hc : Delimits c) (s : List Char) :
    someDigits (cs ++ c :: s) = some (r.1, r.2 ++ c :: s) := by
  have hcd : c.isDigit = false := by simpa using hc.1
  unfold someDigits at h ⊢
  dsimp only at h ⊢
  have ht : (cs ++ c :: s).takeWhile Char.isDigit = cs.takeWhile Char.isDigit := by
    rw [List.takeWhile_append]
    split_ifs with hl
    · simp [hcd, (List.takeWhile_prefix _).eq_of_length hl]
    · rfl
  have hd : (cs ++ c :: s).dropWhile Char.isDigit = cs.dropWhile Char.isDigit ++ c :: s := by
    rw [List.dropWhile_append]
    split_ifs with hl
    · simp only [List.isEmpty_iff] at hl
      simp [hl, hcd]
    · rfl
  rw [ht, hd]
  split_ifs at h ⊢
  obtain rfl := Option.some.inj h
  rfl

theorem wholePart_append_delimiter {cs : List Char} {r : List Char × List Char}
    (h : wholePart cs = some r) {c : Char} (hc : Delimits c) (s : List Char) :
    wholePart (cs ++ c :: s) = some (r.1, r.2 ++ c :: s) := by
  unfold wholePart at h
  split at h
  · obtain rfl := Option.some.inj h
    rfl
  · next hz =>
    have hne : ∀ cs', cs ++ c :: s ≠ '0' :: cs' := by
      intro cs' he
      cases cs with
      | nil => simp [someDigits] at h
      | cons d ds => exact hz ds (by rw [(List.cons.inj he).1])
    rw [wholePart]
    · exact someDigits_append_delimiter h hc s
    · exact hne

theorem fractionPart_append_delimiter {cs : List Char} {r : List Char × List Char}
    (h : fractionPart cs = some r) {c : Char} (hc : Delimits c) (s : List Char) :
    fractionPart (cs ++ c :: s) = some (r.1, r.2 ++ c :: s) := by
  unfold fractionPart at h
  split at h
  · obtain ⟨r', hr, rfl⟩ := Option.map_eq_some_iff.1 h
    rw [List.cons_append, fractionPart, someDigits_append_delimiter hr hc]
    rfl
  · next hp =>
    obtain rfl := Option.some.inj h
    rw [fractionPart]
    intro cs' he
    cases cs with
    | nil => exact hc.2.1 (List.cons.inj he).1
    | cons d ds => exact hp ds (by rw [(List.cons.inj he).1])

theorem exponentPart_append_delimiter {cs : List Char} {r : List Char × List Char}
    (h : exponentPart cs = some r) {c : Char} (hc : Delimits c) (s : List Char) :
    exponentPart (cs ++ c :: s) = some (r.1, r.2 ++ c :: s) := by
  cases cs with
  | nil =>
    obtain rfl := Option.some.inj h
    simp [exponentPart, hc.2.2]
  | cons e cs =>
    unfold exponentPart at h ⊢
    simp only [List.cons_append] at h ⊢
    split_ifs at h ⊢ with he
    · split at h
      · obtain ⟨r', hr, rfl⟩ := Option.map_eq_some_iff.1 h
        simp [someDigits_append_delimiter hr hc]
      · obtain ⟨r', hr, rfl⟩ := Option.map_eq_some_iff.1 h
        simp [someDigits_append_delimiter hr hc]
      · next hplus hminus =>
        obtain ⟨r', hr, rfl⟩ := Option.map_eq_some_iff.1 h
        have hd := someDigits_append_delimiter hr hc s
        cases cs with
        | nil => simp [someDigits] at hr
        | cons d ds =>
          split
          · next he => exact absurd (by rw [(List.cons.inj he).1]) (hplus ds)
          · next he => exact absurd (by rw [(List.cons.inj he).1]) (hminus ds)
          · rw [hd]
            rfl
    · obtain rfl := Option.some.inj h
      rfl

theorem magnitude_append_delimiter {cs : List Char} {r : List Char × List Char}
    (h : magnitude cs = some r) {c : Char} (hc : Delimits c) (s : List Char) :
    magnitude (cs ++ c :: s) = some (r.1, r.2 ++ c :: s) := by
  simp only [magnitude, Option.bind_eq_bind, Option.pure_def, Option.bind_eq_some_iff,
    Option.some.injEq] at h
  obtain ⟨w, hw, f, hf, e, he, rfl⟩ := h
  simp only [magnitude, Option.bind_eq_bind, Option.pure_def]
  rw [wholePart_append_delimiter hw hc, Option.bind_some,
    fractionPart_append_delimiter hf hc, Option.bind_some,
    exponentPart_append_delimiter he hc, Option.bind_some]

theorem numberLiteral_append_delimiter {cs : List Char} {r : List Char × List Char}
    (h : numberLiteral cs = some r) {c : Char} (hc : Delimits c) (s : List Char) :
    numberLiteral (cs ++ c :: s) = some (r.1, r.2 ++ c :: s) := by
  cases cs with
  | nil => simp [numberLiteral, magnitude, wholePart, someDigits] at h
  | cons d ds =>
    by_cases hd : d = '-'
    · subst hd
      obtain ⟨r', hr, rfl⟩ := Option.map_eq_some_iff.1 h
      rw [List.cons_append, numberLiteral, magnitude_append_delimiter hr hc]
      rfl
    · have hplain : ∀ ds, numberLiteral (d :: ds) = magnitude (d :: ds) := by
        intro ds
        rw [numberLiteral]
        exact fun _ he => hd (List.cons.inj he).1
      rw [hplain] at h
      rw [List.cons_append, hplain]
      exact magnitude_append_delimiter h hc s

/-- A number begins with a digit or a minus sign. -/
theorem numberLiteral_head {c : Char} {cs : List Char} {r : List Char × List Char}
    (h : numberLiteral (c :: cs) = some r) : c = '-' ∨ c.isDigit := by
  by_cases hm : c = '-'
  · exact .inl hm
  · right
    by_contra hd
    have hz : c ≠ '0' := by
      rintro rfl
      exact hd (by decide)
    have hdigits : someDigits (c :: cs) = none := by simp [someDigits, hd]
    have hwhole : wholePart (c :: cs) = none := by
      rw [wholePart, hdigits]
      exact fun _ he => hz (List.cons.inj he).1
    have hnumber : numberLiteral (c :: cs) = magnitude (c :: cs) := by
      rw [numberLiteral]
      exact fun _ he => hm (List.cons.inj he).1
    rw [hnumber, magnitude, hwhole] at h
    cases h

theorem token_number {c : Char} (h : c = '-' ∨ c.isDigit) (cs : List Char) :
    token c cs = (numberLiteral (c :: cs)).map fun r => (.number (String.ofList r.1), r.2) := by
  unfold token
  split
  case h_11 => rfl
  all_goals exact absurd h (by decide)

theorem token_quote (cs : List Char) : token '"' cs =
    (pieces cs).map fun r => (.string ((decodePieces r.1).map String.ofList), r.2) := rfl

theorem token_append {c : Char} {cs : List Char} {r : Token × List Char}
    (h : token c cs = some r) {d : Char} (hd : Delimits d) (s : List Char) :
    token c (cs ++ d :: s) = some (r.1, r.2 ++ d :: s) := by
  unfold token at h
  split at h
  case h_7 =>
    obtain ⟨r', hr, rfl⟩ := Option.map_eq_some_iff.1 h
    rw [token_quote, pieces_append hr]
    rfl
  case h_11 =>
    obtain ⟨r', hr, rfl⟩ := Option.map_eq_some_iff.1 h
    rw [token_number (numberLiteral_head hr), ← List.cons_append,
      numberLiteral_append_delimiter hr hd]
    rfl
  all_goals
    obtain rfl := Option.some.inj h
    rfl

theorem tokens_blank {c : Char} (h : isJsonBlank c) (cs : List Char) :
    tokens (c :: cs) = tokens cs := by
  rw [tokens, if_pos h]

theorem tokens_token {c : Char} (hb : ¬ isJsonBlank c) {cs : List Char} {r : Token × List Char}
    (h : token c cs = some r) : tokens (c :: cs) = (tokens r.2).map (r.1 :: ·) := by
  rw [tokens, if_neg hb]
  split
  · next he => simp [he] at h
  · next he =>
    rw [h] at he
    obtain rfl := Option.some.inj he
    rfl

/-- A delimiter separates the tokens in front of it from those from it on. -/
theorem tokens_append {cs : List Char} {ts : List Token} (h : tokens cs = some ts) {d : Char}
    (hd : Delimits d) (s : List Char) :
    tokens (cs ++ d :: s) = (tokens (d :: s)).map (ts ++ ·) := by
  fun_induction tokens cs generalizing ts with
  | case1 =>
    obtain rfl := Option.some.inj h
    simp
  | case2 c cs hb ih =>
    rw [List.cons_append, tokens_blank hb, ih h]
  | case3 => cases h
  | case4 c cs hb t rest ht ih =>
    obtain ⟨us, hus, rfl⟩ := Option.map_eq_some_iff.1 h
    rw [List.cons_append, tokens_token hb (token_append ht hd s), ih hus, Option.map_map]
    rfl

theorem decodePieces_unit {u : Nat} (h : u < 0xD800) (ps : List Piece) :
    decodePieces (.unit u :: ps) = (decodePieces ps).map (Char.ofNat u :: ·) := by
  have hh : isHighSurrogate u = false := by
    simp only [isHighSurrogate, Bool.and_eq_false_iff, decide_eq_false_iff_not]
    omega
  have hl : isLowSurrogate u = false := by
    simp only [isLowSurrogate, Bool.and_eq_false_iff, decide_eq_false_iff_not]
    omega
  cases ps with
  | nil => simp [decodePieces, hh, hl]
  | cons p ps =>
    cases p with
    | char c => simp [decodePieces, hh, hl]
    | unit l => rw [decodePieces]; simp [hh, hl]

theorem unit?_control : ∀ n < 0x20,
    unit? '0' '0' (Text.digitChar (n / 16)) (Text.digitChar (n % 16)) = some n := by
  decide

/-- A character is written as a piece of a literal, and the piece denotes it. -/
structure WrittenAs (c : Char) (p : Piece) : Prop where
  pieces (cs : List Char) : pieces (escape c ++ cs) = (pieces cs).map fun r => (p :: r.1, r.2)
  decode (ps : List Piece) : decodePieces (p :: ps) = (decodePieces ps).map (c :: ·)

theorem writtenAs_letter {c e : Char} (h : escaped? e = some c) (hc : escape c = ['\\', e]) :
    WrittenAs c (.char c) where
  pieces cs := by
    rw [hc]
    exact pieces_escape h cs
  decode ps := by rw [decodePieces]

theorem exists_writtenAs (c : Char) : ∃ p, WrittenAs c p := by
  by_cases h₁ : c = '"'
  · exact ⟨_, writtenAs_letter (e := '"') (by rw [h₁]; rfl) (by rw [h₁]; rfl)⟩
  by_cases h₂ : c = '\\'
  · exact ⟨_, writtenAs_letter (e := '\\') (by rw [h₂]; rfl) (by rw [h₂]; rfl)⟩
  by_cases h₃ : c = '\x08'
  · exact ⟨_, writtenAs_letter (e := 'b') (by rw [h₃]; rfl) (by rw [h₃]; rfl)⟩
  by_cases h₄ : c = '\x0c'
  · exact ⟨_, writtenAs_letter (e := 'f') (by rw [h₄]; rfl) (by rw [h₄]; rfl)⟩
  by_cases h₅ : c = '\n'
  · exact ⟨_, writtenAs_letter (e := 'n') (by rw [h₅]; rfl) (by rw [h₅]; rfl)⟩
  by_cases h₆ : c = '\r'
  · exact ⟨_, writtenAs_letter (e := 'r') (by rw [h₆]; rfl) (by rw [h₆]; rfl)⟩
  by_cases h₇ : c = '\t'
  · exact ⟨_, writtenAs_letter (e := 't') (by rw [h₇]; rfl) (by rw [h₇]; rfl)⟩
  by_cases h₈ : c.toNat < 0x20
  · refine ⟨.unit c.toNat, fun cs => ?_, fun ps => ?_⟩
    · simp only [escape, h₁, h₂, h₃, h₄, h₅, h₆, h₇, h₈, beq_iff_eq, if_true, if_false,
        List.cons_append, List.nil_append]
      rw [pieces, unit?_control _ h₈]
    · rw [decodePieces_unit (by omega), Char.ofNat_toNat]
  · refine ⟨.char c, fun cs => ?_, fun ps => by rw [decodePieces]⟩
    simp only [escape, h₁, h₂, h₃, h₄, h₅, h₆, h₇, h₈, beq_iff_eq, if_false,
      List.cons_append, List.nil_append]
    exact pieces_char h₁ h₂ h₈ cs

/-- A text is read back from its literal. -/
theorem exists_pieces_quoted (s cs : List Char) : ∃ ps : List Piece,
    pieces (s.flatMap escape ++ '"' :: cs) = some (ps, cs) ∧ decodePieces ps = some s := by
  induction s with
  | nil => exact ⟨[], rfl, rfl⟩
  | cons c s ih =>
    obtain ⟨ps, hps, hs⟩ := ih
    obtain ⟨p, hp, hc⟩ := exists_writtenAs c
    refine ⟨p :: ps, ?_, ?_⟩
    · rw [List.flatMap_cons, List.append_assoc, hp, hps]
      rfl
    · rw [hc, hs]
      rfl

theorem tokens_quote (text : Option String) : tokens (quote text) = some [.string text] := by
  cases text with
  | none =>
    have ht : token '"' ['\\', 'u', 'd', '8', '0', '0', '"'] = some (.string none, []) := by decide
    exact (tokens_token (by decide) ht).trans (by rw [tokens]; rfl)
  | some s =>
    obtain ⟨ps, hps, hs⟩ := exists_pieces_quoted s.toList []
    have ht : token '"' (s.toList.flatMap escape ++ ['"']) = some (.string (some s), []) := by
      rw [token_quote, hps]
      simp [hs]
    exact (tokens_token (by decide) ht).trans (by rw [tokens]; rfl)

/-- A literal that is a number and nothing else. -/
def IsNumber (literal : String) : Prop :=
  numberLiteral literal.toList = some (literal.toList, [])

theorem tokens_number {literal : String} (h : IsNumber literal) :
    tokens literal.toList = some [.number literal] := by
  unfold IsNumber at h
  cases hl : literal.toList with
  | nil =>
    rw [hl] at h
    cases h
  | cons c cs =>
    rw [hl] at h
    have hc := numberLiteral_head h
    have hb : ¬ isJsonBlank c := by
      intro hb
      simp only [isJsonBlank, Bool.or_eq_true, beq_iff_eq] at hb
      rcases hb with ((rfl | rfl) | rfl) | rfl <;> exact absurd hc (by decide)
    have ht : token c cs = some (.number literal, []) := by
      rw [token_number hc, h]
      simp [← hl]
    rw [tokens_token hb ht, tokens]
    rfl

theorem wholePart_decimal (n : Nat) :
    wholePart (Text.decimal n) = some (Text.decimal n, []) := by
  by_cases hn : n = 0
  · subst hn
    rw [Text.decimal]
    rfl
  · have hz : ∀ cs, Text.decimal n ≠ '0' :: cs := by
      intro cs he
      exact Text.decimal_head_ne_zero hn (by rw [he]; rfl)
    have hd : ∀ c ∈ Text.decimal n, c.isDigit := fun _ h =>
      Text.isDigit_of_mem_decimal h
    rw [wholePart]
    · simp [someDigits, List.takeWhile_eq_self_iff.2 hd, List.dropWhile_eq_nil_iff.2 hd,
        Text.decimal_ne_nil]
    · exact hz

theorem isNumber_natText (n : Nat) : IsNumber (Text.natText n) := by
  have hm : ∀ cs, Text.decimal n ≠ '-' :: cs := by
    intro cs he
    have := Text.isDigit_of_mem_decimal (he ▸ List.mem_cons_self)
    exact absurd this (by decide)
  rw [IsNumber, Text.natText, String.toList_ofList, numberLiteral]
  · simp [magnitude, wholePart_decimal, fractionPart, exponentPart]
  · exact hm

mutual

/-- Every number in a value is written as one. -/
def Proper : Json → Prop
  | .number literal => IsNumber literal
  | .array items => ProperItems items
  | .object members => ProperMembers members
  | _ => True

def ProperItems : List Json → Prop
  | [] => True
  | v :: vs => Proper v ∧ ProperItems vs

def ProperMembers : List (Option String × Json) → Prop
  | [] => True
  | (_, v) :: ms => Proper v ∧ ProperMembers ms

end

theorem properMembers_append {ms ns : List (Option String × Json)} :
    ProperMembers (ms ++ ns) ↔ ProperMembers ms ∧ ProperMembers ns := by
  induction ms with
  | nil => simp [ProperMembers]
  | cons m ms ih => simp only [List.cons_append, ProperMembers, ih, and_assoc]

theorem proper_text (t : String) : Proper (text t) := by
  rw [text, Proper]
  all_goals simp

theorem proper_nat (n : Nat) : Proper (nat n) := by
  rw [nat, Proper]
  exact isNumber_natText n

theorem proper_bool (b : Bool) : Proper (bool b) := by
  rw [Proper]
  all_goals simp

/-- Punctuation is a token by itself. -/
theorem tokens_punctuation {c : Char} {t : Token} (ht : ∀ cs, token c cs = some (t, cs))
    (hb : ¬ isJsonBlank c) (cs : List Char) : tokens (c :: cs) = (tokens cs).map (t :: ·) :=
  tokens_token hb (ht cs)

theorem tokens_comma (cs : List Char) : tokens (',' :: cs) = (tokens cs).map (.comma :: ·) :=
  tokens_punctuation (fun _ => rfl) (by decide) cs

theorem tokens_colon (cs : List Char) : tokens (':' :: cs) = (tokens cs).map (.colon :: ·) :=
  tokens_punctuation (fun _ => rfl) (by decide) cs

theorem tokens_between {first last : Char} {t u : Token}
    (ht : ∀ cs, token first cs = some (t, cs)) (hu : ∀ cs, token last cs = some (u, cs))
    (hb : ¬ isJsonBlank first) (hb' : ¬ isJsonBlank last) (hd : Delimits last) {cs : List Char}
    {ts : List Token} (h : tokens cs = some ts) :
    tokens (first :: cs ++ [last]) = some (t :: (ts ++ [u])) := by
  rw [List.cons_append, tokens_punctuation ht hb, tokens_append h hd,
    tokens_punctuation hu hb', tokens]
  rfl

theorem tokens_brackets {cs : List Char} {ts : List Token} (h : tokens cs = some ts) :
    tokens ('[' :: cs ++ [']']) = some (.leftBracket :: (ts ++ [.rightBracket])) :=
  tokens_between (fun _ => rfl) (fun _ => rfl) (by decide) (by decide) (by decide) h

theorem tokens_braces {cs : List Char} {ts : List Token} (h : tokens cs = some ts) :
    tokens ('\x7b' :: cs ++ ['\x7d']) = some (.leftBrace :: (ts ++ [.rightBrace])) :=
  tokens_between (fun _ => rfl) (fun _ => rfl) (by decide) (by decide) (by decide) h

theorem tokens_member {key : Option String} {cs : List Char} {ts : List Token}
    (h : tokens cs = some ts) :
    tokens (quote key ++ ':' :: cs) = some (.string key :: .colon :: ts) := by
  rw [tokens_append (tokens_quote key) (by decide), tokens_colon, h]
  rfl

theorem tokens_nil : tokens [] = some [] := by rw [tokens]

theorem compactChars_array (items : List Json) :
    compactChars (.array items) = '[' :: compactItems items ++ [']'] := rfl

theorem compactChars_object (members : List (Option String × Json)) :
    compactChars (.object members) = '\x7b' :: compactMembers members ++ ['\x7d'] := rfl

mutual

/-- The tokens of the text that is written for a value are those that spell it. -/
theorem tokens_compactChars (v : Json) (h : Proper v) :
    tokens (compactChars v) = some (spelling v) := by
  match v with
  | .null => exact (tokens_token (by decide) rfl).trans (by rw [tokens_nil]; rfl)
  | .bool true => exact (tokens_token (by decide) rfl).trans (by rw [tokens_nil]; rfl)
  | .bool false => exact (tokens_token (by decide) rfl).trans (by rw [tokens_nil]; rfl)
  | .number literal => exact tokens_number h
  | .string text => exact tokens_quote text
  | .array [] => exact tokens_brackets tokens_nil
  | .object [] => exact tokens_braces tokens_nil
  | .array (v :: vs) =>
    have hitems := tokens_compactItems v vs (tokens_compactChars v h.1) h.2
    rw [compactChars_array, spelling, tokens_brackets hitems, List.append_assoc]
  | .object ((key, v) :: ms) =>
    have hmembers := tokens_compactMembers key v ms (tokens_compactChars v h.1) h.2
    rw [compactChars_object, spelling, tokens_braces hmembers]
    simp

theorem tokens_compactItems (v : Json) (vs : List Json)
    (hv : tokens (compactChars v) = some (spelling v)) (hs : ProperItems vs) :
    tokens (compactItems (v :: vs)) = some (spelling v ++ moreItems vs) := by
  match vs with
  | [] => rw [compactItems, moreItems, List.append_nil, hv]
  | w :: ws =>
    have hmore := tokens_compactItems w ws (tokens_compactChars w hs.1) hs.2
    rw [compactItems, tokens_append hv (by decide), tokens_comma, hmore, moreItems]
    · rfl
    · simp

theorem tokens_compactMembers (key : Option String) (v : Json) (ms : List (Option String × Json))
    (hv : tokens (compactChars v) = some (spelling v)) (hs : ProperMembers ms) :
    tokens (compactMembers ((key, v) :: ms)) =
      some (.string key :: .colon :: (spelling v ++ moreMembers ms)) := by
  match ms with
  | [] => rw [compactMembers, moreMembers, List.append_nil, tokens_member hv]
  | (key', w) :: ms =>
    have hmore := tokens_compactMembers key' w ms (tokens_compactChars w hs.1) hs.2
    rw [compactMembers, tokens_append (tokens_member hv) (by decide), tokens_comma, hmore,
      moreMembers]
    · rfl
    · simp

end

theorem tokens_compact {v : Json} (h : Proper v) :
    tokens (compact v).toList = some (spelling v) := by
  rw [compact, String.toList_ofList]
  exact tokens_compactChars v h

end CSymbols.Json

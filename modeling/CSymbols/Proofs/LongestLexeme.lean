import CSymbols.Proofs.LexemeExtent
import CSymbols.Proofs.LexemePlaces
import Mathlib.Data.List.TakeWhile

/-! Longest match: each lexeme is the longest text at its place that any kind matches, and one that
no kind matches is as much of a literal as there is. -/
namespace CSymbols.Lexeme
open Pattern

/-- The lexemes of all kinds. -/
def anyKind : Language Char := fun w => ∃ k : Kind, w ∈ k.pattern.language

theorem mem_anyKind {w : List Char} : w ∈ anyKind ↔ ∃ k : Kind, w ∈ k.pattern.language := Iff.rfl

/-- The quote that a kind of literal begins and ends with. -/
def Kind.quote? : Kind → Option Char
  | .string => some '"'
  | .character => some '\''
  | _ => none

/-- The kind of most lexemes that begin with a character. -/
def Kind.ofFirst (c : Char) : Kind :=
  if isSpace c then .whitespace
  else if c = '\n' then .newline
  else if c = '#' then .directive
  else if c = '"' then .string
  else if c = '\'' then .character
  else if isLetter c then .identifier
  else if c.isDigit then .number
  else .punctuation

theorem not_isSpace_of {p : Char → Bool} {c : Char} (h : p c)
    (hp : ¬ p ' ' ∧ ¬ p '\t' ∧ ¬ p '\r' ∧ ¬ p '\x0c' ∧ ¬ p '\x0b') : ¬ isSpace c := by
  intro hs
  obtain ⟨h₁, h₂, h₃, h₄, h₅⟩ := hp
  simp only [isSpace, Bool.or_eq_true, beq_iff_eq] at hs
  rcases hs with (((rfl | rfl) | rfl) | rfl) | rfl <;> contradiction

theorem not_isLetter_of_isDigit {c : Char} (h : c.isDigit) : ¬ isLetter c := by
  have h0 : '0'.val.toNat = 48 ∧ '9'.val.toNat = 57 ∧ 'A'.val.toNat = 65 ∧ 'a'.val.toNat = 97 := by
    decide
  simp only [Char.isDigit, Bool.and_eq_true, decide_eq_true_eq, ge_iff_le,
    UInt32.le_iff_toNat_le] at h
  simp only [isLetter, isAlpha_eq, Bool.or_eq_true, Bool.and_eq_true, decide_eq_true_eq,
    beq_iff_eq, ge_iff_le, UInt32.le_iff_toNat_le]
  rintro ((h' | h') | rfl)
  · omega
  · omega
  · exact absurd h.2 (by decide)

theorem ofFirst_of_isDigit {c : Char} (h : c.isDigit) : Kind.ofFirst c = .number := by
  have hs : ¬ isSpace c := not_isSpace_of (p := Char.isDigit) h (by decide)
  unfold Kind.ofFirst
  rw [if_neg hs, if_neg, if_neg, if_neg, if_neg, if_neg (not_isLetter_of_isDigit h), if_pos h]
  all_goals
    rintro rfl
    exact absurd h (by decide)

theorem ofFirst_of_isLetter {c : Char} (h : isLetter c) : Kind.ofFirst c = .identifier := by
  have hs : ¬ isSpace c := not_isSpace_of (p := isLetter) h (by decide)
  unfold Kind.ofFirst
  rw [if_neg hs, if_neg, if_neg, if_neg, if_neg, if_pos h]
  all_goals
    rintro rfl
    exact absurd h (by decide)

/-- The first character tells the kinds apart, but for `R` and the slash. -/
theorem kind_of_first {k : Kind} {c : Char} {w : List Char} (h : c :: w ∈ k.pattern.language) :
    k = Kind.ofFirst c ∨ (k = .rawString ∧ c = 'R') ∨
      ((k = .lineComment ∨ k = .blockComment) ∧ c = '/') := by
  have h := cons_mem_pattern.1 h
  cases k with
  | whitespace => exact .inl (by simp [Kind.ofFirst, h.1])
  | newline => exact .inl (by rw [h.1]; rfl)
  | lineComment => exact .inr (.inr ⟨.inl rfl, h.1⟩)
  | blockComment => exact .inr (.inr ⟨.inr rfl, h.1⟩)
  | directive => exact .inl (by rw [h.1]; rfl)
  | string => exact .inl (by rw [h.1]; rfl)
  | rawString => exact .inr (.inl ⟨rfl, h.1⟩)
  | character => exact .inl (by rw [h.1]; rfl)
  | identifier => exact .inl (ofFirst_of_isLetter h.1).symm
  | number => exact .inl (ofFirst_of_isDigit h.1).symm
  | punctuation =>
    obtain ⟨⟨h₁, h₂, h₃, h₄, h₅, h₆, h₇⟩, -⟩ := h
    exact .inl (by simp [Kind.ofFirst, h₁, h₂, h₃, h₄, h₅, h₆, h₇])

/-- A text that a kind matches is longer than what the other kinds match at this place, and no
shorter than what its own kind matches. -/
structure Wins (k : Kind) (text w : List Char) : Prop where
  front : w <+: text
  mem : w ∈ k.pattern.language
  beats : ∀ k' v, v <+: text → v ∈ k'.pattern.language →
    v.length < w.length ∨ (k' = k ∧ v.length ≤ w.length)

namespace Wins

variable {k : Kind} {text w : List Char}

theorem isLongest (h : Wins k text w) : IsLongest anyKind text w := by
  refine ⟨h.front, mem_anyKind.2 ⟨k, h.mem⟩, ?_⟩
  intro v hv hv'
  obtain ⟨k', hk'⟩ := mem_anyKind.1 hv'
  rcases h.beats k' v hv hk' with h | ⟨-, h⟩
  · omega
  · exact h

theorem unique (h : Wins k text w) (k' : Kind) : w ∈ k'.pattern.language ↔ k' = k := by
  constructor
  · intro hw
    rcases h.beats k' w h.front hw with h | ⟨h, -⟩
    · omega
    · exact h
  · rintro rfl
    exact h.mem

/-- No kind matches the empty text, so that only the part behind the first character counts. -/
theorem of_cons {c : Char} {cs w : List Char} (hw : w <+: cs) (hk : c :: w ∈ k.pattern.language)
    (h : ∀ k' u, u <+: cs → c :: u ∈ k'.pattern.language →
      u.length < w.length ∨ (k' = k ∧ u.length ≤ w.length)) : Wins k (c :: cs) (c :: w) := by
  refine ⟨List.cons_prefix_cons.2 ⟨rfl, hw⟩, hk, ?_⟩
  intro k' v hv hv'
  rcases List.prefix_cons_iff.1 hv with rfl | ⟨u, rfl, hu⟩
  · exact absurd hv' (nil_not_mem_pattern k')
  · simpa using h k' u hu hv'

theorem of_run {c : Char} {cs : List Char} {p : Char → Bool}
    (hk : ∀ u, c :: u ∈ k.pattern.language ↔ ∀ d ∈ u, p d)
    (honly : ∀ k' u, u <+: cs → c :: u ∈ k'.pattern.language → k' = k) :
    Wins k (c :: cs) (c :: cs.takeWhile p) := by
  refine of_cons (List.takeWhile_prefix p) ((hk _).2 fun d hd => List.mem_takeWhile_imp hd) ?_
  intro k' u hu hu'
  obtain rfl := honly k' u hu hu'
  obtain ⟨s, rfl⟩ := hu
  rw [List.takeWhile_append_of_pos ((hk u).1 hu'), List.length_append]
  exact .inr ⟨rfl, by omega⟩

end Wins

/-- All kinds that begin with this character are the given one. -/
theorem kind_eq_of_first {k k' : Kind} {c : Char} (hk : Kind.ofFirst c = k) (hR : c ≠ 'R')
    (hs : c ≠ '/') {u : List Char} (h : c :: u ∈ k'.pattern.language) : k' = k := by
  rcases kind_of_first h with h | ⟨-, h⟩ | ⟨-, h⟩
  · exact h.trans hk
  · exact absurd h hR
  · exact absurd h hs

theorem quote_ne {k : Kind} {quote : Char} (h : k.quote? = some quote) :
    quote ≠ '\\' ∧ quote ≠ '\n' := by
  cases k <;> cases h <;> decide

theorem quote_cons_mem {k : Kind} {quote : Char} (h : k.quote? = some quote) {v : List Char} :
    quote :: v ∈ k.pattern.language ↔ v ∈ (literalTail quote).language := by
  cases k <;> cases h <;> simp [cons_mem_pattern]

theorem kind_eq_of_quote {k k' : Kind} {quote : Char} (h : k.quote? = some quote) {v : List Char}
    (hv : quote :: v ∈ k'.pattern.language) : k' = k := by
  cases k <;> cases h <;> exact kind_eq_of_first rfl (by decide) (by decide) hv

theorem cutLiteral_wins {k : Kind} {quote : Char} (hq : k.quote? = some quote) {cs : List Char}
    (hc : (restOfLiteral quote cs).1 = true) :
    Wins k (quote :: cs) (quote :: (restOfLiteral quote cs).2.1) := by
  have hb := (quote_ne hq).1
  obtain ⟨hv, hv'⟩ := (restOfLiteral_closed_iff hb).1 ⟨hc, rfl⟩
  refine Wins.of_cons hv ((quote_cons_mem hq).2 hv') ?_
  intro k' u hu hu'
  obtain rfl := kind_eq_of_quote hq hu'
  obtain ⟨-, rfl⟩ := (restOfLiteral_closed_iff hb).2 ⟨hu, (quote_cons_mem hq).1 hu'⟩
  exact .inr ⟨rfl, le_rfl⟩

theorem cutRaw_wins (cs : List Char) {k : Kind} (h : (cutRaw cs).kind = some k) :
    Wins k ('R' :: '"' :: cs) (cutRaw cs).text := by
  have hid : ∀ u, 'R' :: u ∈ Kind.identifier.pattern.language ↔ ∀ d ∈ u, isIdentifierRest d := by
    intro u
    rw [cons_mem_pattern]
    exact and_iff_right (by decide)
  have hkinds : ∀ {k' : Kind} {u : List Char}, 'R' :: u ∈ k'.pattern.language →
      k' = .identifier ∨ k' = .rawString := by
    intro k' u hu
    rcases kind_of_first hu with h | ⟨h, -⟩ | ⟨-, h⟩
    · exact .inl h
    · exact .inr h
    · exact absurd h (by decide)
  unfold cutRaw at h ⊢
  cases hr : restOfRaw cs with
  | some r =>
    obtain ⟨hv, hv'⟩ := restOfRaw_eq_some_iff.1 (show _ = some r.1 by rw [hr]; rfl)
    obtain rfl : Kind.rawString = k := by simpa [hr] using h
    refine Wins.of_cons (List.cons_prefix_cons.2 ⟨rfl, hv⟩)
      (cons_mem_pattern.2 ⟨rfl, _, rfl, hv'⟩) ?_
    intro k' u hu hu'
    rcases hkinds hu' with rfl | rfl
    · -- An identifier ends in front of the quote.
      rcases List.prefix_cons_iff.1 hu with rfl | ⟨t, rfl, -⟩
      · exact .inl (by simp)
      · exact absurd ((hid _).1 hu' '"' List.mem_cons_self) (by decide)
    · obtain ⟨-, t, rfl, ht⟩ := cons_mem_pattern.1 hu'
      have := restOfRaw_eq_some_iff.2 ⟨(List.cons_prefix_cons.1 hu).2, ht⟩
      obtain rfl : r.1 = t := by simpa [hr] using this
      exact .inr ⟨rfl, le_rfl⟩
  | none =>
    obtain rfl : Kind.identifier = k := by simpa [hr] using h
    have honly : ∀ (k' : Kind) u, u <+: '"' :: cs → 'R' :: u ∈ k'.pattern.language →
        k' = .identifier := by
      intro k' u hu hu'
      rcases hkinds hu' with rfl | rfl
      · rfl
      · obtain ⟨-, t, rfl, ht⟩ := cons_mem_pattern.1 hu'
        have := restOfRaw_eq_some_iff.2 ⟨(List.cons_prefix_cons.1 hu).2, ht⟩
        simp [hr] at this
    exact Wins.of_run hid honly

/-- What begins with a slash is a comment or the slash alone. -/
theorem slash_kinds {k : Kind} {u : List Char} (h : '/' :: u ∈ k.pattern.language) :
    (k = .punctuation ∧ u = []) ∨
      (k = .lineComment ∧ ∃ v, u = '/' :: v ∧ v ∈ lineTail.language) ∨
      (k = .blockComment ∧ ∃ v, u = '*' :: v ∧ v ∈ blockTail.language) := by
  have h' := cons_mem_pattern.1 h
  rcases kind_of_first h with rfl | ⟨-, hs⟩ | ⟨rfl | rfl, -⟩
  · exact .inl ⟨rfl, h'.2⟩
  · exact absurd hs (by decide)
  · exact .inr (.inl ⟨rfl, h'.2⟩)
  · exact .inr (.inr ⟨rfl, h'.2⟩)

theorem lineComment_wins (cs : List Char) :
    Wins .lineComment ('/' :: '/' :: cs) ('/' :: '/' :: (restOfLine cs).1) := by
  refine Wins.of_cons ?_ (cons_mem_pattern.2 ⟨rfl, _, rfl, restOfLine_mem cs⟩) ?_
  · exact List.cons_prefix_cons.2 ⟨rfl, _, restOfLine_append cs⟩
  · intro k' u hu hu'
    rcases slash_kinds hu' with ⟨rfl, rfl⟩ | ⟨rfl, v, rfl, hv⟩ | ⟨rfl, v, rfl, -⟩
    · exact .inl (by simp)
    · have := length_le_restOfLine (List.cons_prefix_cons.1 hu).2 hv
      exact .inr ⟨rfl, by simpa using this⟩
    · exact absurd (List.cons_prefix_cons.1 hu).1 (by decide)

theorem cutBlock_wins (cs : List Char) {k : Kind} (h : (cutBlock cs).kind = some k) :
    Wins k ('/' :: '*' :: cs) (cutBlock cs).text := by
  unfold cutBlock at h ⊢
  cases hr : restOfBlock cs with
  | some r =>
    obtain ⟨hv, hv'⟩ := restOfBlock_eq_some_iff.1 (show _ = some r.1 by rw [hr]; rfl)
    obtain rfl : Kind.blockComment = k := by simpa [hr] using h
    refine Wins.of_cons (List.cons_prefix_cons.2 ⟨rfl, hv⟩)
      (cons_mem_pattern.2 ⟨rfl, _, rfl, hv'⟩) ?_
    intro k' u hu hu'
    rcases slash_kinds hu' with ⟨rfl, rfl⟩ | ⟨rfl, v, rfl, -⟩ | ⟨rfl, v, rfl, hv⟩
    · exact .inl (by simp)
    · exact absurd (List.cons_prefix_cons.1 hu).1 (by decide)
    · have := restOfBlock_eq_some_iff.2 ⟨(List.cons_prefix_cons.1 hu).2, hv⟩
      obtain rfl : r.1 = v := by simpa [hr] using this
      exact .inr ⟨rfl, le_rfl⟩
  | none =>
    obtain rfl : Kind.punctuation = k := by simpa [hr] using h
    refine Wins.of_cons List.nil_prefix (cons_mem_pattern.2 ⟨by decide, rfl⟩) ?_
    intro k' u hu hu'
    rcases slash_kinds hu' with ⟨rfl, rfl⟩ | ⟨rfl, v, rfl, -⟩ | ⟨rfl, v, rfl, hv⟩
    · exact .inr ⟨rfl, le_rfl⟩
    · exact absurd (List.cons_prefix_cons.1 hu).1 (by decide)
    · have := restOfBlock_eq_some_iff.2 ⟨(List.cons_prefix_cons.1 hu).2, hv⟩
      simp [hr] at this

theorem directive_wins (cs : List Char) :
    Wins .directive ('#' :: cs) ('#' :: (restOfLine cs).1) := by
  refine Wins.of_cons ⟨_, restOfLine_append cs⟩ (cons_mem_pattern.2 ⟨rfl, restOfLine_mem cs⟩) ?_
  intro k' u hu hu'
  obtain rfl : k' = .directive := kind_eq_of_first rfl (by decide) (by decide) hu'
  exact .inr ⟨rfl, length_le_restOfLine hu (cons_mem_pattern.1 hu').2⟩

theorem cutLiteral_kind (k : Kind) (quote : Char) (cs : List Char) :
    (cutLiteral k quote cs).kind = if (restOfLiteral quote cs).1 then some k else none := rfl

theorem identifier_wins {c : Char} {cs : List Char} (hc : isLetter c)
    (hR : ∀ rest, c = 'R' → cs = '"' :: rest → False) :
    Wins .identifier (c :: cs) (c :: cs.takeWhile isIdentifierRest) := by
  apply Wins.of_run
  · intro u
    rw [cons_mem_pattern]
    exact and_iff_right hc
  · intro k' u hu hu'
    rcases kind_of_first hu' with h | ⟨rfl, rfl⟩ | ⟨-, rfl⟩
    · exact h.trans (ofFirst_of_isLetter hc)
    · obtain ⟨-, t, rfl, -⟩ := cons_mem_pattern.1 hu'
      obtain ⟨s, rfl⟩ := hu
      exact absurd rfl (hR _ rfl)
    · exact absurd hc (by decide)

theorem punctuation_wins {c : Char} {cs : List Char} (hc : Kind.ofFirst c = .punctuation)
    (hl : ∀ rest, c = '/' → cs = '/' :: rest → False)
    (hb : ∀ rest, c = '/' → cs = '*' :: rest → False) : Wins .punctuation (c :: cs) [c] := by
  have hmem : [c] ∈ Kind.punctuation.pattern.language := by
    unfold Kind.ofFirst at hc
    split_ifs at hc with h₁ h₂ h₃ h₄ h₅ h₆ h₇
    exact cons_mem_pattern.2 ⟨⟨h₁, h₂, h₃, h₄, h₅, h₆, h₇⟩, rfl⟩
  refine Wins.of_cons List.nil_prefix hmem ?_
  intro k' u hu hu'
  by_cases hs : c = '/'
  · subst hs
    obtain ⟨s, rfl⟩ := hu
    rcases slash_kinds hu' with ⟨rfl, rfl⟩ | ⟨rfl, v, rfl, -⟩ | ⟨rfl, v, rfl, -⟩
    · exact .inr ⟨rfl, le_rfl⟩
    · exact absurd rfl (hl _ rfl)
    · exact absurd rfl (hb _ rfl)
  · have hR : c ≠ 'R' := by
      rintro rfl
      exact absurd hc (by decide)
    obtain rfl := kind_eq_of_first hc hR hs hu'
    exact .inr ⟨rfl, by simp [(cons_mem_pattern.1 hu').2]⟩

theorem cut_wins {c : Char} {cs : List Char} {k : Kind} (h : (cut c cs).kind = some k) :
    Wins k (c :: cs) (cut c cs).text := by
  unfold cut at h ⊢
  split_ifs at h ⊢ with hSpace hNewline hHash hDouble hSingle hLetter hDigit
  · obtain rfl : Kind.whitespace = k := by simpa [cutRun] using h
    have hk : Kind.ofFirst c = .whitespace := by simp [Kind.ofFirst, hSpace]
    apply Wins.of_run
    · intro u
      rw [cons_mem_pattern]
      exact and_iff_right hSpace
    · intro k' u _ hu'
      refine kind_eq_of_first hk ?_ ?_ hu'
      all_goals
        rintro rfl
        exact absurd hSpace (by decide)
  · obtain rfl : c = '\n' := by simpa using hNewline
    obtain rfl : Kind.newline = k := by simpa using h
    refine Wins.of_cons List.nil_prefix (cons_mem_pattern.2 ⟨rfl, rfl⟩) ?_
    intro k' u hu hu'
    obtain rfl : k' = .newline := kind_eq_of_first rfl (by decide) (by decide) hu'
    exact .inr ⟨rfl, by simp [(cons_mem_pattern.1 hu').2]⟩
  · obtain rfl : c = '#' := by simpa using hHash
    obtain rfl : Kind.directive = k := by simpa [cutLine] using h
    exact directive_wins cs
  · obtain rfl : c = '"' := by simpa using hDouble
    obtain ⟨hc, rfl⟩ : (restOfLiteral '"' cs).1 = true ∧ Kind.string = k := by
      simpa [cutLiteral_kind] using h
    exact cutLiteral_wins rfl hc
  · obtain rfl : c = '\'' := by simpa using hSingle
    obtain ⟨hc, rfl⟩ : (restOfLiteral '\'' cs).1 = true ∧ Kind.character = k := by
      simpa [cutLiteral_kind] using h
    exact cutLiteral_wins rfl hc
  · split at h
    · exact cutRaw_wins _ h
    · next hR =>
      obtain rfl : Kind.identifier = k := by simpa [cutRun] using h
      exact identifier_wins hLetter hR
  · obtain rfl : Kind.number = k := by simpa [cutRun] using h
    apply Wins.of_run
    · intro u
      rw [cons_mem_pattern]
      exact and_iff_right hDigit
    · intro k' u _ hu'
      refine kind_eq_of_first (ofFirst_of_isDigit hDigit) ?_ ?_ hu'
      all_goals
        rintro rfl
        exact absurd hDigit (by decide)
  · split at h
    · obtain rfl : Kind.lineComment = k := by simpa [cutLine] using h
      exact lineComment_wins _
    · exact cutBlock_wins _ h
    · next hl hb =>
      obtain rfl : Kind.punctuation = k := by simpa using h
      refine punctuation_wins ?_ hl hb
      simp only [beq_iff_eq] at hNewline hHash hDouble hSingle
      simp [Kind.ofFirst, hSpace, hNewline, hHash, hDouble, hSingle, hLetter, hDigit]

/-- A lexeme without kind is a literal that is not closed. -/
theorem cut_unclosed {c : Char} {cs : List Char} (h : (cut c cs).kind = none) :
    ∃ k : Kind, k.quote? = some c ∧ (restOfLiteral c cs).1 = false ∧
      cut c cs = ⟨none, c :: (restOfLiteral c cs).2.1, (restOfLiteral c cs).2.2⟩ := by
  unfold cut at h ⊢
  split_ifs at h ⊢ with hSpace hNewline hHash hDouble hSingle hLetter hDigit
  · simp [cutRun] at h
  · simp [cutLine] at h
  · obtain rfl : c = '"' := by simpa using hDouble
    have hc : (restOfLiteral '"' cs).1 = false := by simpa [cutLiteral] using h
    exact ⟨.string, rfl, hc, by simp [cutLiteral, hc]⟩
  · obtain rfl : c = '\'' := by simpa using hSingle
    have hc : (restOfLiteral '\'' cs).1 = false := by simpa [cutLiteral] using h
    exact ⟨.character, rfl, hc, by simp [cutLiteral, hc]⟩
  · split at h
    · unfold cutRaw at h
      split at h <;> cases h
    · simp [cutRun] at h
  · simp [cutRun] at h
  · split at h
    · simp [cutLine] at h
    · unfold cutBlock at h
      split at h <;> cases h
    · cases h

/-- A literal of which there is only so much: what could still be closed of it ends at a bare
newline or with the text. -/
structure Unclosed (k : Kind) (text w : List Char) : Prop where
  longest : IsLongest (extendable k.pattern.language) text w
  /-- Every newline in it is escaped. -/
  escaped : ∀ before after, w = before ++ '\n' :: after → Escapes before
  stops : w = text ∨ (∃ after, text = w ++ '\n' :: after) ∧ ¬ Escapes w

theorem unclosed_of_restOfLiteral {k : Kind} {quote : Char} (hq : k.quote? = some quote)
    {cs : List Char} (h : (restOfLiteral quote cs).1 = false) :
    Unclosed k (quote :: cs) (quote :: (restOfLiteral quote cs).2.1) := by
  obtain ⟨hb, hn⟩ := quote_ne hq
  obtain ⟨hv, hv', hle⟩ := restOfLiteral_unclosed hb h
  obtain ⟨hesc, hstop⟩ := restOfLiteral_newline hn cs
  have hcs := restOfLiteral_append quote cs
  refine ⟨⟨List.cons_prefix_cons.2 ⟨rfl, hv⟩, ?_, ?_⟩, escapes_before_cons hn hb hesc, ?_⟩
  · obtain ⟨s, hs⟩ := hv'
    exact ⟨s, (quote_cons_mem hq).2 hs⟩
  · rintro v hv ⟨s, hs⟩
    rcases List.prefix_cons_iff.1 hv with rfl | ⟨u, rfl, hu⟩
    · simp
    · simpa using hle u hu ⟨s, (quote_cons_mem hq).1 hs⟩
  · rcases hstop h with hr | ⟨⟨after, hr⟩, he⟩
    · rw [hr, List.append_nil] at hcs
      exact .inl (by rw [hcs])
    · rw [hr] at hcs
      refine .inr ⟨⟨after, ?_⟩, fun h => he ((escapes_cons hb _).1 h)⟩
      rw [List.cons_append, hcs]

/-- Nothing matches at a literal that is not closed. -/
theorem not_mem_of_unclosed {k : Kind} {quote : Char} (hq : k.quote? = some quote) {cs : List Char}
    (h : (restOfLiteral quote cs).1 = false) {k' : Kind} {v : List Char} (hv : v <+: quote :: cs) :
    v ∉ k'.pattern.language := by
  intro hv'
  rcases List.prefix_cons_iff.1 hv with rfl | ⟨u, rfl, hu⟩
  · exact nil_not_mem_pattern k' hv'
  · obtain rfl := kind_eq_of_quote hq hv'
    obtain ⟨hc, -⟩ :=
      (restOfLiteral_closed_iff (quote_ne hq).1).2 ⟨hu, (quote_cons_mem hq).1 hv'⟩
    rw [h] at hc
    cases hc

/-- Some kind matches at the front of a text. -/
def Matched (text : List Char) : Prop := ∃ w ∈ anyKind, w ≠ [] ∧ w <+: text

/-- A lexeme at the front of a text: the longest match, whose kind no other kind can take, or, where
nothing matches, a literal that is not closed. -/
structure IsFront (text : List Char) (l : Lexeme) : Prop where
  matched : Matched text → ∃ k, l.kind = some k ∧ IsLongest anyKind text l.text ∧
    ∀ k' : Kind, l.text ∈ k'.pattern.language ↔ k' = k
  unmatched : ¬ Matched text → l.kind = none ∧ ∃ (k : Kind) (quote : Char),
    k.quote? = some quote ∧ text.head? = some quote ∧ Unclosed k text l.text

theorem cut_isFront (c : Char) (cs : List Char) (line : Nat) :
    IsFront (c :: cs) ⟨(cut c cs).kind, (cut c cs).text, line⟩ := by
  cases hk : (cut c cs).kind with
  | some k =>
    have hw := cut_wins hk
    refine ⟨fun _ => ⟨k, rfl, hw.isLongest, hw.unique⟩, fun hno => absurd ?_ hno⟩
    exact ⟨_, hw.isLongest.mem, cut_text_ne_nil c cs, hw.front⟩
  | none =>
    obtain ⟨k, hq, hc, he⟩ := cut_unclosed hk
    refine ⟨?_, fun _ => ⟨rfl, k, c, hq, rfl, ?_⟩⟩
    · rintro ⟨w, hw, -, hpre⟩
      obtain ⟨k', hw'⟩ := mem_anyKind.1 hw
      exact absurd hw' (not_mem_of_unclosed hq hc hpre)
    · rw [he]
      exact unclosed_of_restOfLiteral hq hc

/-- Each lexeme of a source is at the front of the text that begins behind the lexemes before it. -/
theorem lexemes_isFront {source : String} {before after : List Lexeme} {l : Lexeme}
    (h : lexemes source = before ++ l :: after) :
    ∃ text, source.toList = textOf before ++ text ∧ IsFront text l := by
  obtain ⟨c, rest, hsource, hl, -⟩ := scan_split h
  refine ⟨c :: rest, hsource, ?_⟩
  rw [hl]
  exact cut_isFront c rest _

/-- A raw string that is not closed falls apart into a name and a literal, which stops at the bare
newline. -/
theorem lexemes_isFront_unclosed :
    lexemes "R\"(/*\\\n\nx" =
      [⟨some .identifier, ['R'], 1⟩] ++ ⟨none, ['"', '(', '/', '*', '\\', '\n'], 1⟩ ::
        [⟨some .newline, ['\n'], 2⟩, ⟨some .identifier, ['x'], 3⟩] ∧
    ∃ text, "R\"(/*\\\n\nx".toList = textOf [⟨some .identifier, ['R'], 1⟩] ++ text ∧
      IsFront text ⟨none, ['"', '(', '/', '*', '\\', '\n'], 1⟩ := by
  have h : lexemes "R\"(/*\\\n\nx" =
      [⟨some .identifier, ['R'], 1⟩] ++ ⟨none, ['"', '(', '/', '*', '\\', '\n'], 1⟩ ::
        [⟨some .newline, ['\n'], 2⟩, ⟨some .identifier, ['x'], 3⟩] := by
    decide +kernel
  exact ⟨h, lexemes_isFront h⟩

end CSymbols.Lexeme

import CSymbols.Lexeme.Scan
import Mathlib.Computability.Language

/-! The kinds of lexeme as regular languages over characters.

`Kind.pattern` says what the lexemes of a kind look like. The rest of the module opens the languages
of these patterns from the front, one character at a time. -/
namespace CSymbols.Lexeme
open Computability

/-- Regular expressions over characters. -/
inductive Pattern where
  | empty
  /-- One character from the given ranges. -/
  | within (ranges : List (Char × Char))
  /-- One character from outside the given ranges. -/
  | without (ranges : List (Char × Char))
  | seq (a b : Pattern)
  | alt (a b : Pattern)
  | star (a : Pattern)
  deriving DecidableEq, Repr

namespace Pattern

def inRanges (ranges : List (Char × Char)) (c : Char) : Bool :=
  ranges.any fun r => r.1 ≤ c && c ≤ r.2

/-- The texts that match a pattern as a whole. -/
def language : Pattern → Language Char
  | empty => 1
  | within ranges => fun w => ∃ c, inRanges ranges c ∧ w = [c]
  | without ranges => fun w => ∃ c, ¬ inRanges ranges c ∧ w = [c]
  | seq a b => a.language * b.language
  | alt a b => a.language + b.language
  | star a => a.language∗

/-- The ranges that consist of one character each. -/
def each (cs : List Char) : List (Char × Char) := cs.map fun c => (c, c)

/-- The given character. -/
def one (c : Char) : Pattern := within (each [c])

/-- Any character at all. -/
def any : Pattern := without []

def plus (a : Pattern) : Pattern := seq a (star a)

/-- What a line goes on with: a character other than a backslash or newline, or a backslash with the
character, the newline or the carriage return and newline behind it. -/
def lineItem : Pattern :=
  alt (without (each ['\\', '\n']))
    (alt (seq (one '\\') (without (each ['\n'])))
      (seq (one '\\') (seq (alt empty (one '\r')) (one '\n'))))

/-- A line comment or directive behind its mark. -/
def lineTail : Pattern := star lineItem

/-- What a block comment goes on with: a character other than an asterisk, or asterisks with a
character behind them that does not end the comment. -/
def blockItem : Pattern :=
  alt (without (each ['*'])) (seq (plus (one '*')) (without (each ['*', '/'])))

/-- A block comment behind its first two characters. -/
def blockTail : Pattern := seq (star blockItem) (seq (plus (one '*')) (one '/'))

def literalItem (quote : Char) : Pattern :=
  alt (without (each [quote, '\\', '\n'])) (seq (one '\\') any)

/-- A literal behind its opening quote. -/
def literalTail (quote : Char) : Pattern := seq (star (literalItem quote)) (one quote)

/-- A raw string behind its opening quote. -/
def rawTail : Pattern := seq (star (without (each ['"']))) (one '"')

end Pattern

open Pattern in
/-- What the lexemes of a kind look like. -/
def Kind.pattern : Kind → Pattern
  | .whitespace => plus (within (each [' ', '\t', '\r', '\x0c', '\x0b']))
  | .newline => one '\n'
  | .lineComment => seq (one '/') (seq (one '/') lineTail)
  | .blockComment => seq (one '/') (seq (one '*') blockTail)
  | .directive => seq (one '#') lineTail
  | .string => seq (one '"') (literalTail '"')
  | .rawString => seq (one 'R') (seq (one '"') rawTail)
  | .character => seq (one '\'') (literalTail '\'')
  | .identifier =>
    seq (within (('a', 'z') :: ('A', 'Z') :: each ['_']))
      (star (within (('a', 'z') :: ('A', 'Z') :: ('0', '9') :: each ['_'])))
  | .number =>
    seq (within [('0', '9')])
      (star (within (('0', '9') :: ('a', 'z') :: ('A', 'Z') :: each ['_', '.', '\''])))
  | .punctuation =>
    without (('a', 'z') :: ('A', 'Z') :: ('0', '9') ::
      each [' ', '\t', '\r', '\x0c', '\x0b', '\n', '"', '\'', '#', '_'])

namespace Pattern

@[simp] theorem mem_empty {w : List Char} : w ∈ empty.language ↔ w = [] := Iff.rfl

@[simp] theorem mem_within {ranges : List (Char × Char)} {w : List Char} :
    w ∈ (within ranges).language ↔ ∃ c, inRanges ranges c ∧ w = [c] := Iff.rfl

@[simp] theorem mem_without {ranges : List (Char × Char)} {w : List Char} :
    w ∈ (without ranges).language ↔ ∃ c, ¬ inRanges ranges c ∧ w = [c] := Iff.rfl

theorem mem_seq {a b : Pattern} {w : List Char} :
    w ∈ (seq a b).language ↔ ∃ u ∈ a.language, ∃ v ∈ b.language, u ++ v = w :=
  Language.mem_mul

@[simp] theorem mem_alt {a b : Pattern} {w : List Char} :
    w ∈ (alt a b).language ↔ w ∈ a.language ∨ w ∈ b.language := Iff.rfl

theorem mem_star {a : Pattern} {w : List Char} :
    w ∈ (star a).language ↔
      w = [] ∨ ∃ u ∈ a.language, ∃ v ∈ (star a).language, u ++ v = w := by
  have h : (star a).language = 1 + a.language * (star a).language :=
    (Language.one_add_self_mul_kstar_eq_kstar a.language).symm
  calc w ∈ (star a).language ↔ w ∈ 1 + a.language * (star a).language := by rw [← h]
    _ ↔ _ := or_congr Iff.rfl Language.mem_mul

theorem mem_star_seq {a b : Pattern} {w : List Char} :
    w ∈ (seq (star a) b).language ↔
      w ∈ b.language ∨ ∃ u ∈ a.language, ∃ v ∈ (seq (star a) b).language, u ++ v = w := by
  constructor
  · intro h
    obtain ⟨s, hs, v, hv, rfl⟩ := mem_seq.1 h
    rcases mem_star.1 hs with rfl | ⟨u, hu, s', hs', rfl⟩
    · exact .inl hv
    · exact .inr ⟨u, hu, s' ++ v, mem_seq.2 ⟨s', hs', v, hv, rfl⟩, (List.append_assoc u s' v).symm⟩
  · rintro (h | ⟨u, hu, v, hv, rfl⟩)
    · exact mem_seq.2 ⟨[], mem_star.2 (.inl rfl), w, h, rfl⟩
    · obtain ⟨s, hs, t, ht, rfl⟩ := mem_seq.1 hv
      exact mem_seq.2
        ⟨u ++ s, mem_star.2 (.inr ⟨u, hu, s, hs, rfl⟩), t, ht, List.append_assoc u s t⟩

@[simp] theorem inRanges_each {cs : List Char} {c : Char} : inRanges (each cs) c ↔ c ∈ cs := by
  simp only [inRanges, each, List.any_map, List.any_eq_true, Function.comp_apply, Bool.and_eq_true,
    decide_eq_true_eq]
  constructor
  · rintro ⟨d, hd, h₁, h₂⟩
    rwa [Char.le_antisymm h₂ h₁]
  · intro h
    exact ⟨c, h, Char.le_refl c, Char.le_refl c⟩

theorem inRanges_cons {r : Char × Char} {rs : List (Char × Char)} {c : Char} :
    inRanges (r :: rs) c ↔ (r.1 ≤ c ∧ c ≤ r.2) ∨ inRanges rs c := by
  simp [inRanges]

@[simp] theorem mem_one {c : Char} {w : List Char} : w ∈ (one c).language ↔ w = [c] := by
  simp [one]

@[simp] theorem mem_any {w : List Char} : w ∈ any.language ↔ ∃ c, w = [c] := by
  simp [any, inRanges]

/-- A pattern that begins with one character of a class. -/
theorem cons_mem_within_seq {ranges : List (Char × Char)} {p : Pattern} {c : Char} {w : List Char} :
    c :: w ∈ (seq (within ranges) p).language ↔ inRanges ranges c ∧ w ∈ p.language := by
  rw [mem_seq]
  constructor
  · rintro ⟨u, ⟨d, hd, rfl⟩, v, hv, h⟩
    obtain ⟨rfl, rfl⟩ := List.cons.inj h
    exact ⟨hd, hv⟩
  · rintro ⟨hc, hw⟩
    exact ⟨[c], ⟨c, hc, rfl⟩, w, hw, rfl⟩

theorem cons_mem_one_seq {d : Char} {p : Pattern} {c : Char} {w : List Char} :
    c :: w ∈ (seq (one d) p).language ↔ c = d ∧ w ∈ p.language := by
  rw [one, cons_mem_within_seq]
  simp

theorem nil_not_mem_within_seq {ranges : List (Char × Char)} {p : Pattern} :
    [] ∉ (seq (within ranges) p).language := by
  rw [mem_seq]
  rintro ⟨u, ⟨d, -, rfl⟩, v, -, h⟩
  simp at h

theorem mem_star_within {ranges : List (Char × Char)} {w : List Char} :
    w ∈ (star (within ranges)).language ↔ ∀ c ∈ w, inRanges ranges c := by
  induction w with
  | nil => exact iff_of_true (mem_star.2 (.inl rfl)) (by simp)
  | cons c w ih =>
    rw [mem_star, List.forall_mem_cons, ← ih]
    constructor
    · rintro (h | ⟨u, ⟨d, hd, rfl⟩, v, hv, h⟩)
      · cases h
      · obtain ⟨rfl, rfl⟩ := List.cons.inj h
        exact ⟨hd, hv⟩
    · rintro ⟨hc, hw⟩
      exact .inr ⟨[c], ⟨c, hc, rfl⟩, w, hw, rfl⟩

theorem cons_mem_star {a : Pattern} (ha : [] ∉ a.language) {c : Char} {w : List Char} :
    c :: w ∈ (star a).language ↔
      ∃ u v, w = u ++ v ∧ c :: u ∈ a.language ∧ v ∈ (star a).language := by
  rw [mem_star]
  constructor
  · rintro (h | ⟨u, hu, v, hv, h⟩)
    · cases h
    · cases u with
      | nil => exact absurd hu ha
      | cons d u =>
        obtain ⟨rfl, rfl⟩ := List.cons.inj h
        exact ⟨u, v, rfl, hu, hv⟩
  · rintro ⟨u, v, rfl, hu, hv⟩
    exact .inr ⟨c :: u, hu, v, hv, rfl⟩

theorem cons_mem_star_seq {a b : Pattern} (ha : [] ∉ a.language) {c : Char} {w : List Char} :
    c :: w ∈ (seq (star a) b).language ↔ c :: w ∈ b.language ∨
      ∃ u v, w = u ++ v ∧ c :: u ∈ a.language ∧ v ∈ (seq (star a) b).language := by
  rw [mem_star_seq]
  refine or_congr_right ⟨?_, ?_⟩
  · rintro ⟨u, hu, v, hv, h⟩
    cases u with
    | nil => exact absurd hu ha
    | cons d u =>
      obtain ⟨rfl, rfl⟩ := List.cons.inj h
      exact ⟨u, v, rfl, hu, hv⟩
  · rintro ⟨u, v, rfl, hu, hv⟩
    exact ⟨c :: u, hu, v, hv, rfl⟩

theorem nil_not_mem_lineItem : [] ∉ lineItem.language := by
  simp [lineItem, one, nil_not_mem_within_seq]

theorem cons_mem_lineItem {c : Char} {w : List Char} :
    c :: w ∈ lineItem.language ↔ (c ≠ '\\' ∧ c ≠ '\n' ∧ w = []) ∨
      (c = '\\' ∧ ((∃ d, w = [d]) ∨ w = ['\r', '\n'])) := by
  rw [lineItem, mem_alt, mem_alt, cons_mem_one_seq, cons_mem_one_seq, mem_seq]
  constructor
  · rintro (⟨d, hd, h⟩ | ⟨rfl, d, -, rfl⟩ | ⟨rfl, u, hu, v, hv, rfl⟩)
    · obtain ⟨rfl, rfl⟩ := List.cons.inj h
      simp only [inRanges_each, List.mem_cons, List.not_mem_nil, or_false, not_or] at hd
      exact .inl ⟨hd.1, hd.2, rfl⟩
    · exact .inr ⟨rfl, .inl ⟨d, rfl⟩⟩
    · obtain rfl := mem_one.1 hv
      rcases hu with rfl | hu
      · exact .inr ⟨rfl, .inl ⟨'\n', rfl⟩⟩
      · obtain rfl := mem_one.1 hu
        exact .inr ⟨rfl, .inr rfl⟩
  · rintro (⟨h₁, h₂, rfl⟩ | ⟨rfl, ⟨d, rfl⟩ | rfl⟩)
    · exact .inl ⟨c, by simp [h₁, h₂], rfl⟩
    · by_cases hd : d = '\n'
      · exact .inr (.inr ⟨rfl, [], by simp, ['\n'], by simp, by simp [hd]⟩)
      · exact .inr (.inl ⟨rfl, d, by simp [hd], rfl⟩)
    · exact .inr (.inr ⟨rfl, ['\r'], by simp, ['\n'], by simp, rfl⟩)

theorem nil_mem_lineTail : [] ∈ lineTail.language := mem_star.2 (.inl rfl)

theorem cons_mem_lineTail {c : Char} {w : List Char} :
    c :: w ∈ lineTail.language ↔ (c ≠ '\\' ∧ c ≠ '\n' ∧ w ∈ lineTail.language) ∨
      (c = '\\' ∧ ((∃ d v, w = d :: v ∧ v ∈ lineTail.language) ∨
        ∃ v, w = '\r' :: '\n' :: v ∧ v ∈ lineTail.language)) := by
  rw [lineTail, cons_mem_star nil_not_mem_lineItem]
  simp only [cons_mem_lineItem]
  constructor
  · rintro ⟨u, v, rfl, ⟨h₁, h₂, rfl⟩ | ⟨rfl, ⟨d, rfl⟩ | rfl⟩, hv⟩
    · exact .inl ⟨h₁, h₂, hv⟩
    · exact .inr ⟨rfl, .inl ⟨d, v, rfl, hv⟩⟩
    · exact .inr ⟨rfl, .inr ⟨v, rfl, hv⟩⟩
  · rintro (⟨h₁, h₂, hw⟩ | ⟨rfl, ⟨d, v, rfl, hv⟩ | ⟨v, rfl, hv⟩⟩)
    · exact ⟨[], w, rfl, .inl ⟨h₁, h₂, rfl⟩, hw⟩
    · exact ⟨[d], v, rfl, .inr ⟨rfl, .inl ⟨d, rfl⟩⟩, hv⟩
    · exact ⟨['\r', '\n'], v, rfl, .inr ⟨rfl, .inr rfl⟩, hv⟩

theorem nil_not_mem_literalTail {quote : Char} : [] ∉ (literalTail quote).language := by
  rw [literalTail, mem_seq]
  rintro ⟨u, -, v, hv, h⟩
  simp [mem_one.1 hv] at h

theorem cons_mem_literalTail {quote c : Char} {w : List Char} :
    c :: w ∈ (literalTail quote).language ↔ (c = quote ∧ w = []) ∨
      (c ≠ quote ∧ c ≠ '\\' ∧ c ≠ '\n' ∧ w ∈ (literalTail quote).language) ∨
      (c = '\\' ∧ ∃ d v, w = d :: v ∧ v ∈ (literalTail quote).language) := by
  have hnil : [] ∉ (literalItem quote).language := by
    simp [literalItem, one, nil_not_mem_within_seq]
  have hitem : ∀ u, c :: u ∈ (literalItem quote).language ↔
      (c ≠ quote ∧ c ≠ '\\' ∧ c ≠ '\n' ∧ u = []) ∨ (c = '\\' ∧ ∃ d, u = [d]) := by
    intro u
    rw [literalItem, mem_alt, cons_mem_one_seq]
    simp
    tauto
  rw [literalTail, cons_mem_star_seq hnil]
  simp only [hitem, mem_one, List.cons.injEq]
  refine or_congr_right ⟨?_, ?_⟩
  · rintro ⟨u, v, rfl, ⟨h₁, h₂, h₃, rfl⟩ | ⟨rfl, d, rfl⟩, hv⟩
    · exact .inl ⟨h₁, h₂, h₃, hv⟩
    · exact .inr ⟨rfl, d, v, rfl, hv⟩
  · rintro (⟨h₁, h₂, h₃, hw⟩ | ⟨rfl, d, v, rfl, hv⟩)
    · exact ⟨[], w, rfl, .inl ⟨h₁, h₂, h₃, rfl⟩, hw⟩
    · exact ⟨[d], v, rfl, .inr ⟨rfl, d, rfl⟩, hv⟩

theorem nil_not_mem_rawTail : [] ∉ rawTail.language := by
  rw [rawTail, mem_seq]
  rintro ⟨u, -, v, hv, h⟩
  simp [mem_one.1 hv] at h

theorem cons_mem_rawTail {c : Char} {w : List Char} :
    c :: w ∈ rawTail.language ↔ (c = '"' ∧ w = []) ∨ (c ≠ '"' ∧ w ∈ rawTail.language) := by
  have hnil : [] ∉ (without (each ['"'])).language := by simp
  have hitem : ∀ u, c :: u ∈ (without (each ['"'])).language ↔ c ≠ '"' ∧ u = [] := by
    intro u
    simp
  rw [rawTail, cons_mem_star_seq hnil]
  simp only [hitem, mem_one, List.cons.injEq]
  refine or_congr_right ⟨?_, ?_⟩
  · rintro ⟨u, v, rfl, ⟨hc, rfl⟩, hv⟩
    exact ⟨hc, hv⟩
  · rintro ⟨hc, hw⟩
    exact ⟨[], w, rfl, ⟨hc, rfl⟩, hw⟩

theorem mem_asterisks {w : List Char} :
    w ∈ (plus (one '*')).language ↔ ∃ n, w = List.replicate (n + 1) '*' := by
  have hs : ∀ v : List Char, v ∈ (star (one '*')).language ↔ ∃ n, v = List.replicate n '*' := by
    intro v
    rw [one, mem_star_within]
    constructor
    · intro h
      exact ⟨v.length, List.eq_replicate_iff.2 ⟨rfl, fun c hc => by simpa using h c hc⟩⟩
    · rintro ⟨n, rfl⟩ c hc
      simpa using (List.mem_replicate.1 hc).2
  cases w with
  | nil => simp [plus, one, nil_not_mem_within_seq]
  | cons c w =>
    rw [plus, cons_mem_one_seq, hs]
    simp [List.replicate_succ]

theorem mem_blockItem {w : List Char} :
    w ∈ blockItem.language ↔ (∃ c, c ≠ '*' ∧ w = [c]) ∨
      ∃ n c, c ≠ '*' ∧ c ≠ '/' ∧ w = List.replicate (n + 1) '*' ++ [c] := by
  rw [blockItem, mem_alt, mem_seq]
  simp only [mem_without, mem_asterisks, inRanges_each, List.mem_cons, List.not_mem_nil, or_false,
    not_or]
  refine or_congr_right ⟨?_, ?_⟩
  · rintro ⟨_, ⟨n, rfl⟩, _, ⟨c, ⟨h₁, h₂⟩, rfl⟩, rfl⟩
    exact ⟨n, c, h₁, h₂, rfl⟩
  · rintro ⟨n, c, h₁, h₂, rfl⟩
    exact ⟨_, ⟨n, rfl⟩, _, ⟨c, ⟨h₁, h₂⟩, rfl⟩, rfl⟩

theorem mem_blockTail {w : List Char} :
    w ∈ blockTail.language ↔ (∃ n, w = List.replicate (n + 1) '*' ++ ['/']) ∨
      (∃ c v, c ≠ '*' ∧ v ∈ blockTail.language ∧ w = c :: v) ∨
      ∃ n c v, c ≠ '*' ∧ c ≠ '/' ∧ v ∈ blockTail.language ∧
        w = List.replicate (n + 1) '*' ++ c :: v := by
  rw [blockTail, mem_star_seq, mem_seq]
  simp only [mem_asterisks, mem_one, mem_blockItem]
  constructor
  · rintro (⟨_, ⟨n, rfl⟩, _, rfl, rfl⟩ | ⟨_, ⟨c, hc, rfl⟩ | ⟨n, c, h₁, h₂, rfl⟩, v, hv, rfl⟩)
    · exact .inl ⟨n, rfl⟩
    · exact .inr (.inl ⟨c, v, hc, hv, rfl⟩)
    · exact .inr (.inr ⟨n, c, v, h₁, h₂, hv, by simp⟩)
  · rintro (⟨n, rfl⟩ | ⟨c, v, hc, hv, rfl⟩ | ⟨n, c, v, h₁, h₂, hv, rfl⟩)
    · exact .inl ⟨_, ⟨n, rfl⟩, _, rfl, rfl⟩
    · exact .inr ⟨[c], .inl ⟨c, hc, rfl⟩, v, hv, rfl⟩
    · exact .inr ⟨_, .inr ⟨n, c, h₁, h₂, rfl⟩, v, hv, by simp⟩

theorem nil_not_mem_blockTail : [] ∉ blockTail.language := by
  rw [mem_blockTail]
  simp

/-- A block comment ends at the first asterisk with a slash behind it. -/
theorem cons_mem_blockTail {c : Char} {w : List Char} :
    c :: w ∈ blockTail.language ↔ (c = '*' ∧ w = ['/']) ∨
      (¬ (c = '*' ∧ w.head? = some '/') ∧ w ∈ blockTail.language) := by
  by_cases hc : c = '*'
  · subst hc
    -- Behind an asterisk, another one or the character that follows it decides.
    constructor
    · intro h
      rcases mem_blockTail.1 h with ⟨n, h⟩ | ⟨d, v, hd, hv, h⟩ | ⟨n, d, v, h₁, h₂, hv, h⟩
      · cases n with
        | zero => exact .inl ⟨rfl, (List.cons.inj h).2⟩
        | succ n =>
          obtain ⟨-, rfl⟩ := List.cons.inj h
          exact .inr ⟨by simp [List.replicate_succ], mem_blockTail.2 (.inl ⟨n, rfl⟩)⟩
      · exact absurd (List.cons.inj h).1.symm hd
      · cases n with
        | zero =>
          obtain ⟨-, rfl⟩ := List.cons.inj h
          exact .inr ⟨by simpa using h₂, mem_blockTail.2 (.inr (.inl ⟨d, v, h₁, hv, rfl⟩))⟩
        | succ n =>
          obtain ⟨-, rfl⟩ := List.cons.inj h
          exact .inr ⟨by simp [List.replicate_succ],
            mem_blockTail.2 (.inr (.inr ⟨n, d, v, h₁, h₂, hv, rfl⟩))⟩
    · rintro (⟨-, rfl⟩ | ⟨hw, h⟩)
      · exact mem_blockTail.2 (.inl ⟨0, rfl⟩)
      · rcases mem_blockTail.1 h with ⟨n, rfl⟩ | ⟨d, v, hd, hv, rfl⟩ | ⟨n, d, v, h₁, h₂, hv, rfl⟩
        · exact mem_blockTail.2 (.inl ⟨n + 1, rfl⟩)
        · exact mem_blockTail.2 (.inr (.inr ⟨0, d, v, hd, by simpa using hw, hv, rfl⟩))
        · exact mem_blockTail.2 (.inr (.inr ⟨n + 1, d, v, h₁, h₂, hv, rfl⟩))
  · simp only [hc, false_and, not_false_eq_true, true_and, false_or]
    constructor
    · intro h
      rcases mem_blockTail.1 h with ⟨n, h⟩ | ⟨d, v, hd, hv, h⟩ | ⟨n, d, v, h₁, h₂, hv, h⟩
      · exact absurd (List.cons.inj h).1 hc
      · rwa [(List.cons.inj h).2]
      · exact absurd (List.cons.inj h).1 hc
    · intro h
      exact mem_blockTail.2 (.inr (.inl ⟨c, w, hc, h, rfl⟩))

theorem inRanges_space {c : Char} :
    inRanges (each [' ', '\t', '\r', '\x0c', '\x0b']) c ↔ isSpace c := by
  simp [isSpace, or_assoc]

theorem inRanges_digit {c : Char} : inRanges [('0', '9')] c ↔ c.isDigit := by
  simp [inRanges, Char.isDigit, Char.le_def]

theorem isAlpha_eq (c : Char) : c.isAlpha =
    (decide (c.val ≥ 'A'.val ∧ c.val ≤ 'Z'.val) ||
      (decide (c.val ≥ 'a'.val) && decide (c.val ≤ 'z'.val))) := rfl

theorem inRanges_letter {c : Char} :
    inRanges (('a', 'z') :: ('A', 'Z') :: each ['_']) c ↔ isLetter c := by
  simp only [inRanges_cons, inRanges_each, isLetter, isAlpha_eq, Char.le_def]
  simp
  tauto

theorem inRanges_identifierRest {c : Char} :
    inRanges (('a', 'z') :: ('A', 'Z') :: ('0', '9') :: each ['_']) c ↔ isIdentifierRest c := by
  simp only [inRanges_cons, inRanges_each, isIdentifierRest, Char.isAlphanum, isAlpha_eq,
    Char.isDigit, Char.le_def]
  simp
  tauto

theorem inRanges_numberRest {c : Char} :
    inRanges (('0', '9') :: ('a', 'z') :: ('A', 'Z') :: each ['_', '.', '\'']) c ↔
      isNumberRest c := by
  simp only [inRanges_cons, inRanges_each, isNumberRest, Char.isAlphanum, isAlpha_eq,
    Char.isDigit, Char.le_def]
  simp
  tauto

theorem not_inRanges_punctuation {c : Char} :
    ¬ inRanges (('a', 'z') :: ('A', 'Z') :: ('0', '9') ::
        each [' ', '\t', '\r', '\x0c', '\x0b', '\n', '"', '\'', '#', '_']) c ↔
      ¬ isSpace c ∧ c ≠ '\n' ∧ c ≠ '#' ∧ c ≠ '"' ∧ c ≠ '\'' ∧ ¬ isLetter c ∧ ¬ c.isDigit := by
  simp only [inRanges_cons, inRanges_each, isSpace, isLetter, isAlpha_eq, Char.isDigit,
    Char.le_def]
  simp
  tauto

end Pattern

open Pattern

theorem nil_not_mem_pattern (k : Kind) : [] ∉ k.pattern.language := by
  cases k <;> simp [Kind.pattern, plus, one, nil_not_mem_within_seq]

/-- The lexemes of a kind by their first character. -/
theorem cons_mem_pattern {k : Kind} {c : Char} {w : List Char} :
    c :: w ∈ k.pattern.language ↔ match k with
      | .whitespace => isSpace c ∧ ∀ d ∈ w, isSpace d
      | .newline => c = '\n' ∧ w = []
      | .lineComment => c = '/' ∧ ∃ v, w = '/' :: v ∧ v ∈ lineTail.language
      | .blockComment => c = '/' ∧ ∃ v, w = '*' :: v ∧ v ∈ blockTail.language
      | .directive => c = '#' ∧ w ∈ lineTail.language
      | .string => c = '"' ∧ w ∈ (literalTail '"').language
      | .rawString => c = 'R' ∧ ∃ v, w = '"' :: v ∧ v ∈ rawTail.language
      | .character => c = '\'' ∧ w ∈ (literalTail '\'').language
      | .identifier => isLetter c ∧ ∀ d ∈ w, isIdentifierRest d
      | .number => c.isDigit ∧ ∀ d ∈ w, isNumberRest d
      | .punctuation => (¬ isSpace c ∧ c ≠ '\n' ∧ c ≠ '#' ∧ c ≠ '"' ∧ c ≠ '\'' ∧ ¬ isLetter c ∧
          ¬ c.isDigit) ∧ w = [] := by
  have hsecond : ∀ {d : Char} {p : Pattern},
      w ∈ (seq (one d) p).language ↔ ∃ v, w = d :: v ∧ v ∈ p.language := by
    intro d p
    cases w with
    | nil => simp [one, nil_not_mem_within_seq]
    | cons e v =>
      rw [cons_mem_one_seq]
      simp
  cases k with
  | whitespace =>
    rw [Kind.pattern, plus, cons_mem_within_seq, mem_star_within]
    simp only [inRanges_space]
  | newline => simp [Kind.pattern]
  | lineComment => rw [Kind.pattern, cons_mem_one_seq, hsecond]
  | blockComment => rw [Kind.pattern, cons_mem_one_seq, hsecond]
  | directive => rw [Kind.pattern, cons_mem_one_seq]
  | string => rw [Kind.pattern, cons_mem_one_seq]
  | rawString => rw [Kind.pattern, cons_mem_one_seq, hsecond]
  | character => rw [Kind.pattern, cons_mem_one_seq]
  | identifier =>
    rw [Kind.pattern, cons_mem_within_seq, mem_star_within, inRanges_letter]
    simp only [inRanges_identifierRest]
  | number =>
    rw [Kind.pattern, cons_mem_within_seq, mem_star_within, inRanges_digit]
    simp only [inRanges_numberRest]
  | punctuation =>
    rw [Kind.pattern, mem_without]
    simp only [not_inRanges_punctuation, List.cons.injEq]
    constructor
    · rintro ⟨d, hd, rfl, rfl⟩
      exact ⟨hd, rfl⟩
    · rintro ⟨hc, rfl⟩
      exact ⟨c, hc, rfl, rfl⟩

end CSymbols.Lexeme

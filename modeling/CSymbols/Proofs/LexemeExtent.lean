import CSymbols.Proofs.Patterns

/-! How far the scanners reach, against the languages that they scan: the rest of a line is the
longest possible, comments, raw strings and literals are found just if they are closed, and a
literal that is not closed reaches as far as it could be continued. -/
namespace CSymbols.Lexeme
open Pattern

/-- The longest prefix of a text that belongs to a language. -/
structure IsLongest (L : Language Char) (text w : List Char) : Prop where
  front : w <+: text
  mem : w ∈ L
  length_le : ∀ v, v <+: text → v ∈ L → v.length ≤ w.length

/-- The texts that can be extended to one of a language. -/
def extendable (L : Language Char) : Language Char := fun w => ∃ s, w ++ s ∈ L

/-- A character behind the text is escaped: the text ends in an odd number of backslashes. -/
def Escapes (w : List Char) : Prop := (w.reverse.takeWhile (· == '\\')).length % 2 = 1

instance (w : List Char) : Decidable (Escapes w) := inferInstanceAs (Decidable (_ = _))

/-- A character that the cases of a scanner for backslashes do not fit is none. -/
theorem ne_backslash {c : Char} {cs : List Char} (hpair : ∀ d ds, c = '\\' → cs = d :: ds → False)
    (hend : c = '\\' → cs = [] → False) : c ≠ '\\' := by
  intro hc
  cases cs with
  | nil => exact hend hc rfl
  | cons d ds => exact hpair d ds hc rfl

theorem restOfLine_mem (cs : List Char) : (restOfLine cs).1 ∈ lineTail.language := by
  fun_induction restOfLine cs with
  | case1 => exact nil_mem_lineTail
  | case2 cs ih => exact cons_mem_lineTail.2 (.inr ⟨rfl, .inr ⟨_, rfl, ih⟩⟩)
  | case3 c cs _ ih => exact cons_mem_lineTail.2 (.inr ⟨rfl, .inl ⟨c, _, rfl, ih⟩⟩)
  | case4 => exact nil_mem_lineTail
  | case5 => exact nil_mem_lineTail
  | case6 c cs _ hc hend hn ih =>
    exact cons_mem_lineTail.2 (.inl ⟨ne_backslash hc hend, by simpa using hn, ih⟩)

theorem length_le_restOfLine {cs v : List Char} (hv : v <+: cs) (h : v ∈ lineTail.language) :
    v.length ≤ (restOfLine cs).1.length := by
  fun_induction restOfLine cs generalizing v with
  | case1 => simp [List.prefix_nil.1 hv]
  | case2 cs ih =>
    rcases List.prefix_cons_iff.1 hv with rfl | ⟨u, rfl, hu⟩
    · simp
    · rcases cons_mem_lineTail.1 h with ⟨hb, -⟩ | ⟨-, ⟨d, t, rfl, ht⟩ | ⟨t, rfl, ht⟩⟩
      · exact absurd rfl hb
      · -- Taken apart from its newline, the carriage return ends the line.
        obtain ⟨rfl, ht'⟩ := List.cons_prefix_cons.1 hu
        rcases List.prefix_cons_iff.1 ht' with rfl | ⟨s, rfl, -⟩
        · simp [ahead]
        · rcases cons_mem_lineTail.1 ht with ⟨-, hn, -⟩ | ⟨hn, -⟩
          · exact absurd rfl hn
          · exact absurd hn (by decide)
      · have := ih (List.cons_prefix_cons.1 (List.cons_prefix_cons.1 hu).2).2 ht
        simpa [ahead] using this
  | case3 c cs hcr ih =>
    rcases List.prefix_cons_iff.1 hv with rfl | ⟨u, rfl, hu⟩
    · simp
    · rcases cons_mem_lineTail.1 h with ⟨hb, -⟩ | ⟨-, ⟨d, t, rfl, ht⟩ | ⟨t, rfl, ht⟩⟩
      · exact absurd rfl hb
      · have := ih (List.cons_prefix_cons.1 hu).2 ht
        simpa [ahead] using this
      · obtain ⟨rfl, s, rfl⟩ := List.cons_prefix_cons.1 hu
        exact absurd rfl (hcr _ rfl)
  | case4 =>
    rcases List.prefix_cons_iff.1 hv with rfl | ⟨u, rfl, hu⟩
    · simp
    · rcases cons_mem_lineTail.1 h with ⟨hb, -⟩ | ⟨-, ⟨d, t, rfl, -⟩ | ⟨t, rfl, -⟩⟩
      · exact absurd rfl hb
      · exact absurd (List.prefix_nil.1 hu) (by simp)
      · exact absurd (List.prefix_nil.1 hu) (by simp)
  | case5 c cs _ hc hend hn =>
    rcases List.prefix_cons_iff.1 hv with rfl | ⟨u, rfl, hu⟩
    · simp
    · obtain rfl : c = '\n' := by simpa using hn
      rcases cons_mem_lineTail.1 h with ⟨-, hn, -⟩ | ⟨hn, -⟩
      · exact absurd rfl hn
      · exact absurd hn (by decide)
  | case6 c cs _ hc hend hn ih =>
    rcases List.prefix_cons_iff.1 hv with rfl | ⟨u, rfl, hu⟩
    · simp
    · rcases cons_mem_lineTail.1 h with ⟨-, -, hu'⟩ | ⟨rfl, ⟨d, t, rfl, -⟩ | ⟨t, rfl, -⟩⟩
      · have := ih hu hu'
        simpa [ahead] using this
      · obtain ⟨s, rfl⟩ := hu
        exact absurd rfl (hc _ _ rfl)
      · obtain ⟨s, rfl⟩ := hu
        exact absurd rfl (hc _ _ rfl)

/-- The text of a block comment is found just if there is one. -/
theorem restOfBlock_eq_some_iff {cs v : List Char} :
    (restOfBlock cs).map Prod.fst = some v ↔ v <+: cs ∧ v ∈ blockTail.language := by
  fun_induction restOfBlock cs generalizing v with
  | case1 =>
    constructor
    · intro h
      simp at h
    · rintro ⟨hv, h⟩
      rw [List.prefix_nil.1 hv] at h
      exact absurd h nil_not_mem_blockTail
  | case2 cs =>
    constructor
    · intro h
      obtain rfl : ['*', '/'] = v := by simpa using h
      exact ⟨⟨cs, rfl⟩, cons_mem_blockTail.2 (.inl ⟨rfl, rfl⟩)⟩
    · rintro ⟨hv, h⟩
      rcases List.prefix_cons_iff.1 hv with rfl | ⟨u, rfl, hu⟩
      · exact absurd h nil_not_mem_blockTail
      · rcases cons_mem_blockTail.1 h with ⟨-, rfl⟩ | ⟨hne, hu'⟩
        · rfl
        · rcases List.prefix_cons_iff.1 hu with rfl | ⟨t, rfl, -⟩
          · exact absurd hu' nil_not_mem_blockTail
          · exact absurd ⟨rfl, rfl⟩ hne
  | case3 c cs hne ih =>
    have hne' : ∀ u, u <+: cs → ¬ (c = '*' ∧ u.head? = some '/') := by
      rintro u ⟨s, rfl⟩ ⟨rfl, hu⟩
      obtain ⟨t, rfl⟩ := List.head?_eq_some_iff.1 hu
      exact hne _ rfl rfl
    rw [Option.map_map]
    constructor
    · intro h
      obtain ⟨r, hr, rfl⟩ := Option.map_eq_some_iff.1 h
      obtain ⟨hu, hu'⟩ := ih.1 (show _ = some r.1 by rw [hr]; rfl)
      exact ⟨List.cons_prefix_cons.2 ⟨rfl, hu⟩, cons_mem_blockTail.2 (.inr ⟨hne' _ hu, hu'⟩)⟩
    · rintro ⟨hv, h⟩
      rcases List.prefix_cons_iff.1 hv with rfl | ⟨u, rfl, hu⟩
      · exact absurd h nil_not_mem_blockTail
      · rcases cons_mem_blockTail.1 h with ⟨rfl, rfl⟩ | ⟨-, hu'⟩
        · exact absurd ⟨rfl, rfl⟩ (hne' _ hu)
        · obtain ⟨r, hr, rfl⟩ := Option.map_eq_some_iff.1 (ih.2 ⟨hu, hu'⟩)
          rw [hr]
          rfl

theorem restOfRaw_eq_some_iff {cs v : List Char} :
    (restOfRaw cs).map Prod.fst = some v ↔ v <+: cs ∧ v ∈ rawTail.language := by
  induction cs generalizing v with
  | nil =>
    constructor
    · intro h
      simp [restOfRaw] at h
    · rintro ⟨hv, h⟩
      rw [List.prefix_nil.1 hv] at h
      exact absurd h nil_not_mem_rawTail
  | cons c cs ih =>
    rw [restOfRaw]
    split_ifs with hq
    · obtain rfl : c = '"' := by simpa using hq
      constructor
      · intro h
        obtain rfl : ['"'] = v := by simpa using h
        exact ⟨⟨cs, rfl⟩, cons_mem_rawTail.2 (.inl ⟨rfl, rfl⟩)⟩
      · rintro ⟨hv, h⟩
        rcases List.prefix_cons_iff.1 hv with rfl | ⟨u, rfl, hu⟩
        · exact absurd h nil_not_mem_rawTail
        · rcases cons_mem_rawTail.1 h with ⟨-, rfl⟩ | ⟨hne, -⟩
          · rfl
          · exact absurd rfl hne
    · have hc : c ≠ '"' := by simpa using hq
      rw [Option.map_map]
      constructor
      · intro h
        obtain ⟨r, hr, rfl⟩ := Option.map_eq_some_iff.1 h
        obtain ⟨hu, hu'⟩ := ih.1 (show _ = some r.1 by rw [hr]; rfl)
        exact ⟨List.cons_prefix_cons.2 ⟨rfl, hu⟩, cons_mem_rawTail.2 (.inr ⟨hc, hu'⟩)⟩
      · rintro ⟨hv, h⟩
        rcases List.prefix_cons_iff.1 hv with rfl | ⟨u, rfl, hu⟩
        · exact absurd h nil_not_mem_rawTail
        · rcases cons_mem_rawTail.1 h with ⟨rfl, -⟩ | ⟨-, hu'⟩
          · exact absurd rfl hc
          · obtain ⟨r, hr, rfl⟩ := Option.map_eq_some_iff.1 (ih.2 ⟨hu, hu'⟩)
            rw [hr]
            rfl

section Literal

variable {quote : Char} (hq : quote ≠ '\\')

include hq

/-- A literal is closed just if there is a text that closes it, and it ends there. -/
theorem restOfLiteral_closed_iff {cs v : List Char} :
    (restOfLiteral quote cs).1 = true ∧ (restOfLiteral quote cs).2.1 = v ↔
      v <+: cs ∧ v ∈ (literalTail quote).language := by
  fun_induction restOfLiteral quote cs generalizing v with
  | case1 =>
    constructor
    · rintro ⟨hc, -⟩
      cases hc
    · rintro ⟨hv, h⟩
      rw [List.prefix_nil.1 hv] at h
      exact absurd h nil_not_mem_literalTail
  | case2 c cs ih =>
    constructor
    · rintro ⟨hc, rfl⟩
      obtain ⟨hu, hu'⟩ := ih.1 ⟨hc, rfl⟩
      exact ⟨List.cons_prefix_cons.2 ⟨rfl, List.cons_prefix_cons.2 ⟨rfl, hu⟩⟩,
        cons_mem_literalTail.2 (.inr (.inr ⟨rfl, c, _, rfl, hu'⟩))⟩
    · rintro ⟨hv, h⟩
      rcases List.prefix_cons_iff.1 hv with rfl | ⟨u, rfl, hu⟩
      · exact absurd h nil_not_mem_literalTail
      · rcases cons_mem_literalTail.1 h with ⟨rfl, -⟩ | ⟨-, hb, -⟩ | ⟨-, d, t, rfl, ht⟩
        · exact absurd rfl hq
        · exact absurd rfl hb
        · obtain ⟨rfl, ht'⟩ := List.cons_prefix_cons.1 hu
          obtain ⟨hc, rfl⟩ := ih.2 ⟨ht', ht⟩
          exact ⟨hc, rfl⟩
  | case3 =>
    constructor
    · rintro ⟨hc, -⟩
      cases hc
    · rintro ⟨hv, h⟩
      rcases List.prefix_cons_iff.1 hv with rfl | ⟨u, rfl, hu⟩
      · exact absurd h nil_not_mem_literalTail
      · rcases cons_mem_literalTail.1 h with ⟨rfl, -⟩ | ⟨-, hb, -⟩ | ⟨-, d, t, rfl, -⟩
        · exact absurd rfl hq
        · exact absurd rfl hb
        · exact absurd (List.prefix_nil.1 hu) (by simp)
  | case4 c cs _ _ hc =>
    obtain rfl : c = quote := by simpa using hc
    constructor
    · rintro ⟨-, rfl⟩
      exact ⟨⟨cs, rfl⟩, cons_mem_literalTail.2 (.inl ⟨rfl, rfl⟩)⟩
    · rintro ⟨hv, h⟩
      rcases List.prefix_cons_iff.1 hv with rfl | ⟨u, rfl, hu⟩
      · exact absurd h nil_not_mem_literalTail
      · rcases cons_mem_literalTail.1 h with ⟨-, rfl⟩ | ⟨hne, -⟩ | ⟨hb, -⟩
        · exact ⟨rfl, rfl⟩
        · exact absurd rfl hne
        · exact absurd hb hq
  | case5 c cs _ _ hc hn =>
    obtain rfl : c = '\n' := by simpa using hn
    constructor
    · rintro ⟨hc', -⟩
      cases hc'
    · rintro ⟨hv, h⟩
      rcases List.prefix_cons_iff.1 hv with rfl | ⟨u, rfl, hu⟩
      · exact absurd h nil_not_mem_literalTail
      · rcases cons_mem_literalTail.1 h with ⟨rfl, -⟩ | ⟨-, -, hne, -⟩ | ⟨hb, -⟩
        · exact absurd (by simp) hc
        · exact absurd rfl hne
        · exact absurd hb (by decide)
  | case6 c cs hb hend hc hn ih =>
    have hb' := ne_backslash hb hend
    constructor
    · rintro ⟨hc', rfl⟩
      obtain ⟨hu, hu'⟩ := ih.1 ⟨hc', rfl⟩
      exact ⟨List.cons_prefix_cons.2 ⟨rfl, hu⟩,
        cons_mem_literalTail.2 (.inr (.inl ⟨by simpa using hc, hb', by simpa using hn, hu'⟩))⟩
    · rintro ⟨hv, h⟩
      rcases List.prefix_cons_iff.1 hv with rfl | ⟨u, rfl, hu⟩
      · exact absurd h nil_not_mem_literalTail
      · rcases cons_mem_literalTail.1 h with ⟨rfl, -⟩ | ⟨-, -, -, hu'⟩ | ⟨hb, -⟩
        · exact absurd (by simp) hc
        · obtain ⟨hc', rfl⟩ := ih.2 ⟨hu, hu'⟩
          exact ⟨hc', rfl⟩
        · exact absurd hb hb'

end Literal

theorem nil_mem_extendable_literalTail (quote : Char) :
    [] ∈ extendable (literalTail quote).language :=
  ⟨[quote], cons_mem_literalTail.2 (.inl ⟨rfl, rfl⟩)⟩

theorem cons_mem_extendable_literalTail {quote c : Char} {w : List Char} :
    c :: w ∈ extendable (literalTail quote).language ↔ (c = quote ∧ w = []) ∨
      (c ≠ quote ∧ c ≠ '\\' ∧ c ≠ '\n' ∧ w ∈ extendable (literalTail quote).language) ∨
      (c = '\\' ∧ (w = [] ∨ ∃ d v, w = d :: v ∧ v ∈ extendable (literalTail quote).language)) := by
  constructor
  · rintro ⟨s, hs⟩
    rcases cons_mem_literalTail.1 hs with ⟨rfl, h⟩ | ⟨h₁, h₂, h₃, h⟩ | ⟨rfl, d, v, hv, h⟩
    · exact .inl ⟨rfl, (List.append_eq_nil_iff.1 h).1⟩
    · exact .inr (.inl ⟨h₁, h₂, h₃, s, h⟩)
    · cases w with
      | nil => exact .inr (.inr ⟨rfl, .inl rfl⟩)
      | cons e w =>
        obtain ⟨rfl, rfl⟩ := List.cons.inj hv
        exact .inr (.inr ⟨rfl, .inr ⟨e, w, rfl, s, h⟩⟩)
  · rintro (⟨rfl, rfl⟩ | ⟨h₁, h₂, h₃, s, hs⟩ | ⟨rfl, rfl | ⟨d, v, rfl, s, hs⟩⟩)
    · exact ⟨[], cons_mem_literalTail.2 (.inl ⟨rfl, rfl⟩)⟩
    · exact ⟨s, cons_mem_literalTail.2 (.inr (.inl ⟨h₁, h₂, h₃, hs⟩))⟩
    · obtain ⟨s, hs⟩ := nil_mem_extendable_literalTail quote
      exact ⟨' ' :: s, cons_mem_literalTail.2 (.inr (.inr ⟨rfl, ' ', s, rfl, hs⟩))⟩
    · exact ⟨s, cons_mem_literalTail.2 (.inr (.inr ⟨rfl, d, v ++ s, rfl, hs⟩))⟩

/-- A literal that is not closed reaches as far as anything could still close it. -/
theorem restOfLiteral_unclosed {quote : Char} (hq : quote ≠ '\\') {cs : List Char}
    (h : (restOfLiteral quote cs).1 = false) :
    IsLongest (extendable (literalTail quote).language) cs (restOfLiteral quote cs).2.1 := by
  refine ⟨⟨_, restOfLiteral_append quote cs⟩, ?_, ?_⟩
  · fun_induction restOfLiteral quote cs with
    | case1 => exact nil_mem_extendable_literalTail quote
    | case2 c cs ih =>
      exact cons_mem_extendable_literalTail.2 (.inr (.inr ⟨rfl, .inr ⟨c, _, rfl, ih h⟩⟩))
    | case3 => exact cons_mem_extendable_literalTail.2 (.inr (.inr ⟨rfl, .inl rfl⟩))
    | case4 => cases h
    | case5 => exact nil_mem_extendable_literalTail quote
    | case6 c cs hb hend hc hn ih =>
      exact cons_mem_extendable_literalTail.2
        (.inr (.inl ⟨by simpa using hc, ne_backslash hb hend, by simpa using hn, ih h⟩))
  · intro v hv hv'
    fun_induction restOfLiteral quote cs generalizing v with
    | case1 => simp [List.prefix_nil.1 hv]
    | case2 c cs ih =>
      rcases List.prefix_cons_iff.1 hv with rfl | ⟨u, rfl, hu⟩
      · simp
      · rcases cons_mem_extendable_literalTail.1 hv' with
          ⟨rfl, -⟩ | ⟨-, hb, -⟩ | ⟨-, rfl | ⟨d, t, rfl, ht⟩⟩
        · exact absurd rfl hq
        · exact absurd rfl hb
        · simp [ahead]
        · have := ih h t (List.cons_prefix_cons.1 hu).2 ht
          simpa [ahead] using this
    | case3 => exact hv.length_le
    | case4 => cases h
    | case5 c cs _ _ hc hn =>
      obtain rfl : c = '\n' := by simpa using hn
      rcases List.prefix_cons_iff.1 hv with rfl | ⟨u, rfl, hu⟩
      · simp
      · rcases cons_mem_extendable_literalTail.1 hv' with ⟨rfl, -⟩ | ⟨-, -, hne, -⟩ | ⟨hb, -⟩
        · exact absurd (by simp) hc
        · exact absurd rfl hne
        · exact absurd hb (by decide)
    | case6 c cs hb hend hc hn ih =>
      rcases List.prefix_cons_iff.1 hv with rfl | ⟨u, rfl, hu⟩
      · simp
      · rcases cons_mem_extendable_literalTail.1 hv' with
          ⟨rfl, -⟩ | ⟨-, -, -, hu'⟩ | ⟨rfl, -⟩
        · exact absurd (by simp) hc
        · have := ih h u hu hu'
          simpa [ahead] using this
        · exact absurd rfl (ne_backslash hb hend)

theorem escapes_append {u : List Char} (hu : ¬ Escapes u) (w : List Char) :
    Escapes (u ++ w) ↔ Escapes w := by
  unfold Escapes at hu ⊢
  rw [List.reverse_append, List.takeWhile_append]
  split_ifs with h
  · rw [List.length_append, h]
    omega
  · rfl

theorem escapes_cons {c : Char} (hc : c ≠ '\\') (w : List Char) : Escapes (c :: w) ↔ Escapes w :=
  escapes_append (u := [c]) (by simp [Escapes, hc]) w

theorem escapes_pair (c : Char) (w : List Char) : Escapes ('\\' :: c :: w) ↔ Escapes w := by
  refine escapes_append (u := ['\\', c]) ?_ w
  by_cases hc : c = '\\' <;> simp [Escapes, hc]

/-- A character in front that is neither a newline nor a backslash leaves no newline bare. -/
theorem escapes_before_cons {c : Char} {w : List Char} (hn : c ≠ '\n') (hb : c ≠ '\\')
    (h : ∀ before after, w = before ++ '\n' :: after → Escapes before) :
    ∀ before after, c :: w = before ++ '\n' :: after → Escapes before := by
  intro before after he
  cases before with
  | nil => exact absurd (List.cons.inj he).1 hn
  | cons d before =>
    obtain ⟨rfl, he'⟩ := List.cons.inj he
    exact (escapes_cons hb before).2 (h before after he')

/-- No newline in a literal is bare, and one that the literal stops at is. -/
theorem restOfLiteral_newline {quote : Char} (hq : quote ≠ '\n') (cs : List Char) :
    (∀ before after, (restOfLiteral quote cs).2.1 = before ++ '\n' :: after → Escapes before) ∧
    ((restOfLiteral quote cs).1 = false → (restOfLiteral quote cs).2.2 = [] ∨
      (∃ after, (restOfLiteral quote cs).2.2 = '\n' :: after) ∧
        ¬ Escapes (restOfLiteral quote cs).2.1) := by
  fun_induction restOfLiteral quote cs with
  | case1 => simp
  | case2 c cs ih =>
    refine ⟨?_, ?_⟩
    · intro before after he
      cases before with
      | nil => exact absurd (List.cons.inj he).1 (by decide)
      | cons d before =>
        obtain ⟨rfl, he'⟩ := List.cons.inj he
        cases before with
        | nil => decide
        | cons e before =>
          obtain ⟨rfl, he''⟩ := List.cons.inj he'
          exact (escapes_pair c before).2 (ih.1 before after he'')
    · intro h
      rcases ih.2 h with hr | ⟨hr, he⟩
      · exact .inl hr
      · exact .inr ⟨hr, fun h => he ((escapes_pair c _).1 h)⟩
  | case3 =>
    refine ⟨?_, fun _ => .inl rfl⟩
    exact fun before after he => by
      have := congrArg (List.count '\n') he
      simp at this
  | case4 c cs _ _ hc =>
    refine ⟨?_, by simp⟩
    obtain rfl : c = quote := by simpa using hc
    intro before after he
    have := congrArg (List.count '\n') he
    simp [hq] at this
  | case5 c cs _ _ hc hn =>
    refine ⟨by simp, fun _ => .inr ⟨⟨cs, by simpa using hn⟩, by simp [Escapes]⟩⟩
  | case6 c cs hb hend hc hn ih =>
    have hb' := ne_backslash hb hend
    refine ⟨escapes_before_cons (by simpa using hn) hb' ih.1, fun h => ?_⟩
    rcases ih.2 h with hr | ⟨hr, he⟩
    · exact .inl hr
    · exact .inr ⟨hr, fun h => he ((escapes_cons hb' _).1 h)⟩

end CSymbols.Lexeme

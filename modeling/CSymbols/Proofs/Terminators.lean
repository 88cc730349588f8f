import CSymbols.Proofs.LongestLexeme

/-! Where delimited lexemes end: a block comment with the first `*/` behind its opening, and a
string or character literal with the first quote that is not escaped. -/
namespace CSymbols.Lexeme

/-- A text cut at the first place where a mark stands in it. -/
structure FirstAt (mark text front rest : List Char) : Prop where
  text_eq : text = front ++ (mark ++ rest)
  first : ∀ u v, text = u ++ (mark ++ v) → front.length ≤ u.length

/-- What a text has in front of the first place where a mark stands, and what behind the mark. -/
def splitAtMark (mark : List Char) : List Char → Option (List Char × List Char)
  | [] => none
  | c :: cs =>
    if mark <+: c :: cs then some ([], (c :: cs).drop mark.length)
    else (splitAtMark mark cs).map fun r => (c :: r.1, r.2)

theorem FirstAt.cons {mark text front rest : List Char} {c : Char}
    (h : FirstAt mark text front rest) (hc : ¬ mark <+: c :: text) :
    FirstAt mark (c :: text) (c :: front) rest := by
  refine ⟨by rw [h.text_eq, List.cons_append], ?_⟩
  intro u v huv
  cases u with
  | nil => exact absurd ⟨v, huv.symm⟩ hc
  | cons d u =>
    have := h.first u v (List.cons.inj huv).2
    simp only [List.length_cons]
    omega

theorem FirstAt.unique {mark text front rest front' rest' : List Char}
    (h : FirstAt mark text front rest) (h' : FirstAt mark text front' rest') :
    front = front' ∧ rest = rest' := by
  have hle := h.first front' rest' h'.text_eq
  have hge := h'.first front rest h.text_eq
  have hsame := h.text_eq.symm.trans h'.text_eq
  obtain ⟨hfront, hrest⟩ := List.append_inj hsame (by omega)
  exact ⟨hfront, List.append_cancel_left hrest⟩

theorem splitAtMark_eq_none_iff {mark text : List Char} (hm : mark ≠ []) :
    splitAtMark mark text = none ↔ ¬ mark <:+: text := by
  induction text with
  | nil => simp [splitAtMark, hm]
  | cons c cs ih =>
    unfold splitAtMark
    rw [List.infix_cons_iff]
    split_ifs with hc
    · simp [hc]
    · simp [hc, ih]

theorem firstAt_of_splitAtMark {mark text front rest : List Char}
    (h : splitAtMark mark text = some (front, rest)) : FirstAt mark text front rest := by
  induction text generalizing front with
  | nil => simp [splitAtMark] at h
  | cons c cs ih =>
    unfold splitAtMark at h
    split_ifs at h with hc
    · obtain ⟨s, hs⟩ := hc
      have hfront : front = [] ∧ rest = s := by
        rw [← hs, List.drop_left] at h
        simpa [eq_comm] using h
      rw [hfront.1, hfront.2]
      exact ⟨by simpa using hs.symm, by simp⟩
    · obtain ⟨⟨u, v⟩, hr, he⟩ := Option.map_eq_some_iff.1 h
      obtain ⟨hfront, hrest⟩ : c :: u = front ∧ v = rest := Prod.mk.inj he
      rw [hrest] at hr
      rw [← hfront]
      exact (ih hr).cons hc

theorem splitAtMark_eq_some_iff {mark text front rest : List Char} (hm : mark ≠ []) :
    splitAtMark mark text = some (front, rest) ↔ FirstAt mark text front rest := by
  refine ⟨firstAt_of_splitAtMark, fun h => ?_⟩
  cases hs : splitAtMark mark text with
  | none =>
    have hmem : mark <:+: text := ⟨front, rest, by rw [h.text_eq, List.append_assoc]⟩
    exact absurd hmem ((splitAtMark_eq_none_iff hm).1 hs)
  | some r =>
    obtain ⟨hfront, hrest⟩ := h.unique (firstAt_of_splitAtMark hs)
    rw [hfront, hrest]

theorem restOfBlock_eq (cs : List Char) :
    restOfBlock cs =
      (splitAtMark ['*', '/'] cs).map fun r => (r.1 ++ ['*', '/'], r.2) := by
  fun_induction restOfBlock cs with
  | case1 => rfl
  | case2 cs => simp [splitAtMark]
  | case3 c cs hne ih =>
    have hc : ¬ ['*', '/'] <+: c :: cs := by
      intro hpre
      obtain ⟨hfirst, s, hs⟩ := List.cons_prefix_cons.1 hpre
      exact hne s hfirst.symm hs.symm
    rw [splitAtMark, if_neg hc, ih, Option.map_map, Option.map_map]
    rfl

/-- What stands in front of each `c` in a text has a property. -/
def BeforeEach (c : Char) (P : List Char → Prop) (w : List Char) : Prop :=
  ∀ u v, w = u ++ c :: v → P u

theorem beforeEach_nil (c : Char) (P : List Char → Prop) : BeforeEach c P [] := by
  intro u v h
  simp at h

theorem beforeEach_cons {c d : Char} {P : List Char → Prop} {w : List Char} :
    BeforeEach c P (d :: w) ↔ (d = c → P []) ∧ BeforeEach c (fun u => P (d :: u)) w := by
  constructor
  · intro h
    refine ⟨fun hd => h [] w (by rw [hd]; rfl), ?_⟩
    intro u v hw
    exact h (d :: u) v (by rw [hw]; rfl)
  · intro ⟨hfirst, h⟩ u v hw
    cases u with
    | nil => exact hfirst (List.cons.inj hw).1
    | cons e u =>
      obtain ⟨he, hw'⟩ := List.cons.inj hw
      rw [← he]
      exact h u v hw'

instance decidableBeforeEach (c : Char) (P : List Char → Prop) [DecidablePred P] :
    (w : List Char) → Decidable (BeforeEach c P w)
  | [] => .isTrue (beforeEach_nil c P)
  | d :: w =>
    have := decidableBeforeEach c (fun u => P (d :: u)) w
    decidable_of_iff _ beforeEach_cons.symm

theorem beforeEach_append {c : Char} {P : List Char → Prop} {w w' : List Char} :
    BeforeEach c P (w ++ w') ↔ BeforeEach c P w ∧ BeforeEach c (fun u => P (w ++ u)) w' := by
  induction w generalizing P with
  | nil => exact ⟨fun h => ⟨beforeEach_nil c P, h⟩, fun h => h.2⟩
  | cons d w ih =>
    rw [List.cons_append, beforeEach_cons, ih, beforeEach_cons, and_assoc]
    rfl

/-- Every `c` in a text is escaped. -/
def Escaped (c : Char) (w : List Char) : Prop := BeforeEach c Escapes w

theorem not_escapes_nil : ¬ Escapes [] := by decide

theorem suffix_of_escapes {w : List Char} (h : Escapes w) : ['\\'] <:+ w := by
  rcases List.eq_nil_or_concat w with hw | ⟨u, c, hw⟩
  · rw [hw] at h
    exact absurd h not_escapes_nil
  · by_cases hc : c = '\\'
    · exact ⟨u, by rw [hw, hc, List.concat_eq_append]⟩
    · rw [hw] at h
      simp [Escapes, hc] at h

theorem escaped_cons {c d : Char} (hd : d ≠ '\\') {w : List Char} :
    Escaped c (d :: w) ↔ d ≠ c ∧ Escaped c w := by
  unfold Escaped
  rw [beforeEach_cons]
  simp only [escapes_cons hd, not_escapes_nil, imp_false, ne_eq]

theorem escaped_pair {c d : Char} (hc : c ≠ '\\') {w : List Char} :
    Escaped c ('\\' :: d :: w) ↔ Escaped c w := by
  have hpair : Escapes ['\\'] := by decide
  unfold Escaped
  rw [beforeEach_cons, beforeEach_cons]
  simp [escapes_pair, hc.symm, hpair]

/-- The text behind an opening quote, cut at the quote that closes the literal: the first that is
not escaped, in front of every newline that is not. -/
structure ClosesAt (quote : Char) (text body rest : List Char) : Prop where
  text_eq : text = body ++ quote :: rest
  bare : ¬ Escapes body
  quotes : Escaped quote body
  newlines : Escaped '\n' body

section Literal

variable {quote : Char}

theorem closesAt_quote (hq : quote ≠ '\\') {cs body rest : List Char} :
    ClosesAt quote (quote :: cs) body rest ↔ body = [] ∧ rest = cs := by
  constructor
  · intro h
    cases body with
    | nil => exact ⟨rfl, (List.cons.inj h.text_eq).2.symm⟩
    | cons d body =>
      have hd : quote = d := (List.cons.inj h.text_eq).1
      have hquotes := h.quotes
      rw [← hd, escaped_cons hq] at hquotes
      exact absurd rfl hquotes.1
  · intro ⟨hbody, hrest⟩
    rw [hbody, hrest]
    exact ⟨rfl, not_escapes_nil, beforeEach_nil quote _, beforeEach_nil '\n' _⟩

theorem closesAt_cons {c : Char} (hb : c ≠ '\\') (hc : c ≠ quote) {cs body rest : List Char} :
    ClosesAt quote (c :: cs) body rest ↔
      c ≠ '\n' ∧ ∃ tail, body = c :: tail ∧ ClosesAt quote cs tail rest := by
  constructor
  · intro h
    cases body with
    | nil => exact absurd (List.cons.inj h.text_eq).1 hc
    | cons d tail =>
      obtain ⟨hd, hcs⟩ := List.cons.inj h.text_eq
      rw [← hd] at h ⊢
      have hnewlines := (escaped_cons hb).1 h.newlines
      refine ⟨hnewlines.1, tail, rfl, hcs, ?_, ((escaped_cons hb).1 h.quotes).2, hnewlines.2⟩
      exact fun he => h.bare ((escapes_cons hb tail).2 he)
  · intro ⟨hn, tail, hbody, h⟩
    rw [hbody]
    refine ⟨by rw [h.text_eq, List.cons_append], ?_, ?_, ?_⟩
    · exact fun he => h.bare ((escapes_cons hb tail).1 he)
    · exact (escaped_cons hb).2 ⟨hc, h.quotes⟩
    · exact (escaped_cons hb).2 ⟨hn, h.newlines⟩

/-- A backslash and the character that it escapes are passed over together. -/
theorem closesAt_pair (hq : quote ≠ '\\') {c : Char} {cs body rest : List Char} :
    ClosesAt quote ('\\' :: c :: cs) body rest ↔
      ∃ tail, body = '\\' :: c :: tail ∧ ClosesAt quote cs tail rest := by
  have hn : '\n' ≠ '\\' := by decide
  constructor
  · intro h
    cases body with
    | nil => exact absurd (List.cons.inj h.text_eq).1.symm hq
    | cons d body =>
      obtain ⟨hd, hcs⟩ := List.cons.inj h.text_eq
      rw [← hd] at h ⊢
      cases body with
      | nil => exact absurd (by decide) h.bare
      | cons e tail =>
        obtain ⟨he, hcs'⟩ := List.cons.inj hcs
        rw [← he] at h ⊢
        refine ⟨tail, rfl, hcs', ?_, (escaped_pair hq).1 h.quotes, (escaped_pair hn).1 h.newlines⟩
        exact fun hesc => h.bare ((escapes_pair c tail).2 hesc)
  · intro ⟨tail, hbody, h⟩
    rw [hbody]
    refine ⟨by rw [h.text_eq]; rfl, ?_, ?_, ?_⟩
    · exact fun hesc => h.bare ((escapes_pair c tail).1 hesc)
    · exact (escaped_pair hq).2 h.quotes
    · exact (escaped_pair hn).2 h.newlines

theorem restOfLiteral_of_closesAt (hq : quote ≠ '\\') {cs body rest : List Char}
    (h : ClosesAt quote cs body rest) :
    restOfLiteral quote cs = (true, body ++ [quote], rest) := by
  fun_induction restOfLiteral quote cs generalizing body with
  | case1 => simpa using h.text_eq
  | case2 c cs ih =>
    obtain ⟨tail, hbody, htail⟩ := (closesAt_pair hq).1 h
    rw [ih htail, hbody]
    rfl
  | case3 =>
    -- The only backslash would have to be the quote, or be in front of it.
    have htext := h.text_eq
    cases body with
    | nil => exact absurd (List.cons.inj htext).1.symm hq
    | cons d body => simp at htext
  | case4 c cs _ _ hc =>
    have hquote : c = quote := by simpa using hc
    rw [hquote] at h ⊢
    obtain ⟨hbody, hrest⟩ := (closesAt_quote hq).1 h
    rw [hbody, hrest]
    rfl
  | case5 c cs hb hend hc hn =>
    have hnewline : c = '\n' := by simpa using hn
    have h' := (closesAt_cons (ne_backslash hb hend) (by simpa using hc)).1 h
    exact absurd hnewline h'.1
  | case6 c cs hb hend hc hn ih =>
    obtain ⟨-, tail, hbody, htail⟩ :=
      (closesAt_cons (ne_backslash hb hend) (by simpa using hc)).1 h
    rw [ih htail, hbody]
    rfl

theorem closesAt_of_restOfLiteral (hq : quote ≠ '\\') {cs : List Char}
    (h : (restOfLiteral quote cs).1 = true) :
    ∃ body, ClosesAt quote cs body (restOfLiteral quote cs).2.2 := by
  fun_induction restOfLiteral quote cs with
  | case1 => cases h
  | case2 c cs ih =>
    obtain ⟨tail, htail⟩ := ih h
    exact ⟨'\\' :: c :: tail, (closesAt_pair hq).2 ⟨tail, rfl, htail⟩⟩
  | case3 => cases h
  | case4 c cs _ _ hc =>
    have hquote : c = quote := by simpa using hc
    rw [hquote]
    exact ⟨[], (closesAt_quote hq).2 ⟨rfl, rfl⟩⟩
  | case5 => cases h
  | case6 c cs hb hend hc hn ih =>
    obtain ⟨tail, htail⟩ := ih h
    have hne : c ≠ quote := by simpa using hc
    refine ⟨c :: tail, (closesAt_cons (ne_backslash hb hend) hne).2 ⟨?_, tail, rfl, htail⟩⟩
    simpa using hn

end Literal

/-- A lexeme at the front of a text that ends at the first terminator, if it is one of those that
have a terminator. -/
structure EndsAtTerminator (text : List Char) (l : Lexeme) : Prop where
  block : ∀ cs body rest, text = '/' :: '*' :: cs → FirstAt ['*', '/'] cs body rest →
    l.kind = some .blockComment ∧ l.text = '/' :: '*' :: (body ++ ['*', '/'])
  slash : ∀ cs, text = '/' :: '*' :: cs → ¬ ['*', '/'] <:+: cs →
    l.kind = some .punctuation ∧ l.text = ['/']
  literal : ∀ (k : Kind) quote cs body rest, k.quote? = some quote → text = quote :: cs →
    ClosesAt quote cs body rest → l.kind = some k ∧ l.text = quote :: (body ++ [quote])
  unclosed : ∀ (k : Kind) quote cs, k.quote? = some quote → text = quote :: cs →
    (¬ ∃ body rest, ClosesAt quote cs body rest) → l.kind = none

theorem cut_block {cs body rest : List Char} (h : FirstAt ['*', '/'] cs body rest) :
    cut '/' ('*' :: cs) = ⟨some .blockComment, '/' :: '*' :: (body ++ ['*', '/']), rest⟩ := by
  have hsplit := (splitAtMark_eq_some_iff (by simp)).2 h
  show cutBlock cs = _
  unfold cutBlock
  rw [restOfBlock_eq, hsplit]
  rfl

theorem cut_slash {cs : List Char} (h : ¬ ['*', '/'] <:+: cs) :
    cut '/' ('*' :: cs) = ⟨some .punctuation, ['/'], '*' :: cs⟩ := by
  have hsplit := (splitAtMark_eq_none_iff (by simp)).2 h
  show cutBlock cs = _
  unfold cutBlock
  rw [restOfBlock_eq, hsplit]
  rfl

theorem cut_quote {k : Kind} {quote : Char} (hk : k.quote? = some quote) (cs : List Char) :
    cut quote cs = cutLiteral k quote cs := by
  cases k <;> cases hk <;> rfl

theorem cut_literal {k : Kind} {quote : Char} (hk : k.quote? = some quote)
    {cs body rest : List Char} (h : ClosesAt quote cs body rest) :
    cut quote cs = ⟨some k, quote :: (body ++ [quote]), rest⟩ := by
  rw [cut_quote hk, cutLiteral, restOfLiteral_of_closesAt (quote_ne hk).1 h]
  rfl

theorem restOfRaw_append_quote {w : List Char} (hw : '"' ∉ w) (rest : List Char) :
    restOfRaw (w ++ '"' :: rest) = some (w ++ ['"'], rest) := by
  induction w with
  | nil => rfl
  | cons c w ih =>
    have hc : c ≠ '"' := fun hc => hw (by rw [hc]; simp)
    have hw' : '"' ∉ w := fun hmem => hw (List.mem_cons_of_mem c hmem)
    rw [List.cons_append, restOfRaw, if_neg (by simpa using hc), ih hw']
    rfl

/-- A raw string is read up to the next quote. -/
theorem cut_raw {w : List Char} (hw : '"' ∉ w) (rest : List Char) :
    cut 'R' ('"' :: (w ++ '"' :: rest)) = ⟨some .rawString, 'R' :: '"' :: (w ++ ['"']), rest⟩ := by
  show cutRaw _ = _
  unfold cutRaw
  rw [restOfRaw_append_quote hw]

theorem cut_endsAtTerminator (c : Char) (cs : List Char) (line : Nat) :
    EndsAtTerminator (c :: cs) ⟨(cut c cs).kind, (cut c cs).text, line⟩ where
  block cs' body rest ht h := by
    obtain ⟨hc, hcs⟩ := List.cons.inj ht
    rw [hc, hcs, cut_block h]
    exact ⟨rfl, rfl⟩
  slash cs' ht h := by
    obtain ⟨hc, hcs⟩ := List.cons.inj ht
    rw [hc, hcs, cut_slash h]
    exact ⟨rfl, rfl⟩
  literal k quote cs' body rest hk ht h := by
    obtain ⟨hc, hcs⟩ := List.cons.inj ht
    rw [hc, hcs, cut_literal hk h]
    exact ⟨rfl, rfl⟩
  unclosed k quote cs' hk ht h := by
    obtain ⟨hc, hcs⟩ := List.cons.inj ht
    have hopen : (restOfLiteral quote cs').1 = false := by
      by_contra hclosed
      obtain ⟨body, hbody⟩ := closesAt_of_restOfLiteral (quote_ne hk).1 (by simpa using hclosed)
      exact h ⟨body, _, hbody⟩
    rw [hc, hcs, cut_quote hk, cutLiteral_kind, hopen]
    rfl

/-- At every place between lexemes with text behind it, the next lexeme ends at the first
terminator. -/
theorem lexemes_endAtTerminator {source : String} {before behind : List Lexeme} {text : List Char}
    (h : lexemes source = before ++ behind) (htext : source.toList = textOf before ++ text)
    (hne : text ≠ []) : ∃ l after, behind = l :: after ∧ EndsAtTerminator text l := by
  have hbehind := lexemes_behind h htext
  obtain ⟨c, cs, hcs⟩ := List.exists_cons_of_ne_nil hne
  rw [hcs, scan] at hbehind
  rw [hcs]
  exact ⟨_, _, hbehind, cut_endsAtTerminator c cs _⟩

/-- A comment whose opening is not its end, a character whose quote is escaped, and a string whose
quotes all are. -/
theorem lexemes_endAtTerminator_starred :
    lexemes "/*/ **/'\\''\"\\\"\n" =
      [⟨some .blockComment, "/*/ **/".toList, 1⟩] ++
        [⟨some .character, "'\\''".toList, 1⟩, ⟨none, "\"\\\"".toList, 1⟩,
          ⟨some .newline, "\n".toList, 1⟩] ∧
    ∃ l after,
      [⟨some .character, "'\\''".toList, 1⟩, ⟨none, "\"\\\"".toList, 1⟩,
        ⟨some .newline, "\n".toList, 1⟩] = l :: after ∧
      EndsAtTerminator "'\\''\"\\\"\n".toList l := by
  have h : lexemes "/*/ **/'\\''\"\\\"\n" =
      [⟨some .blockComment, "/*/ **/".toList, 1⟩] ++
        [⟨some .character, "'\\''".toList, 1⟩, ⟨none, "\"\\\"".toList, 1⟩,
          ⟨some .newline, "\n".toList, 1⟩] := by
    decide +kernel
  exact ⟨h, lexemes_endAtTerminator h (by decide +kernel) (by decide +kernel)⟩

end CSymbols.Lexeme

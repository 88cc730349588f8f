import CSymbols.Proofs.OnePass

/-! For a source without backslashes and digit separators, the comments that are listed are those
that one pass over it finds, just if no comment stands behind a `#` on its line: a directive takes
its whole line. -/
namespace CSymbols.OnePass
open Lexeme

/-- A lexeme and the stretches that it consists of, in front of other stretches. -/
structure Covers (c : Char) (cs : List Char) (ss ts us : List Stretch) : Prop where
  split : ss = ts ++ us
  rest : stretches (cut c cs).rest = some us
  text : ts.flatMap Stretch.text = (cut c cs).text
  comments : ∀ line, commentsIn line ts =
    Remark.commentsOf [⟨(cut c cs).kind, (cut c cs).text, line⟩]
  unmarked : .code '#' ∉ ts
  separators : hasSeparator .none us = false

theorem commentsOf_singleton (k : Kind) (w : List Char) (line : Nat) :
    Remark.commentsOf [⟨some k, w, line⟩] =
      if k.isComment then [⟨String.ofList w, line⟩] else [] := by
  cases hk : k.isComment <;> simp [Remark.commentsOf, hk]

/-- A run of characters that make one word, or none. -/
theorem covers_run {c : Char} {cs : List Char} {ss : List Stretch} {k : Kind} {p : Char → Bool}
    {w : Word} (hcut : cut c cs = cutRun k p c cs) (hk : k.isComment = false) (hc : c ≠ '#')
    (hrun : ∀ d ∈ cs.takeWhile p, (d ≠ '"' ∧ d ≠ '\'' ∧ d ≠ '/') ∧ d ≠ '#')
    (hfirst : Word.none.extend c = w) (hstay : ∀ d, p d → w.extend d = w)
    (hend : ∀ d, p d = false → w.extend d = Word.none.extend d)
    (hs : stretches cs = some ss) (hn : hasSeparator .none (.code c :: ss) = false) :
    ∃ ts us, Covers c cs (.code c :: ss) ts us := by
  have hsplit : stretches (cs.takeWhile p ++ cs.dropWhile p) = some ss := by
    rwa [List.takeWhile_append_dropWhile]
  obtain ⟨us, hrest, hss⟩ := stretches_append (fun d hd => (hrun d hd).1) hsplit
  have hword : (c :: cs.takeWhile p).foldl Word.extend .none = w := by
    rw [List.foldl_cons, hfirst]
    exact foldl_extend hstay fun d hd => List.mem_takeWhile_imp hd
  have hwhole : Stretch.code c :: ss = (c :: cs.takeWhile p).map .code ++ us := by
    rw [hss]
    rfl
  refine ⟨(c :: cs.takeWhile p).map .code, us, hwhole, ?_, ?_, ?_, ?_, ?_⟩
  · rw [hcut]
    exact hrest
  · rw [hcut, flatMap_text_code]
    rfl
  · intro line
    rw [hcut, commentsIn_of_not_isComment fun s hs => isComment_of_mem_code hs, cutRun,
      commentsOf_singleton, hk]
    rfl
  · intro hmem
    obtain ⟨d, hd, he⟩ := List.mem_map.1 hmem
    rw [Stretch.code.inj he] at hd
    rcases List.mem_cons.1 hd with hd | hd
    · exact hc hd.symm
    · exact (hrun '#' hd).2 rfl
  · rw [hwhole, hasSeparator_append, hword] at hn
    refine hasSeparator_none hrest ?_ hn
    intro d hd
    have hnot := List.head?_dropWhile_not p cs
    rw [hd] at hnot
    exact hend d (by simpa using hnot)

/-- A single stretch that is no code. -/
theorem covers_single {c : Char} {cs rest : List Char} {s : Stretch} {us : List Stretch} {k : Kind}
    (hcut : cut c cs = ⟨some k, s.text, rest⟩) (hk : k.isComment = s.isComment)
    (hcode : ∀ d, s ≠ .code d) (hs : stretches rest = some us)
    (hn : hasSeparator .none (s :: us) = false) : ∃ ts us', Covers c cs (s :: us) ts us' := by
  refine ⟨[s], us, rfl, ?_, ?_, ?_, ?_, ?_⟩
  · rw [hcut]
    exact hs
  · rw [hcut]
    simp
  · intro line
    rw [hcut, commentsOf_singleton, hk]
    rfl
  · intro hmem
    exact hcode '#' (List.mem_singleton.1 hmem).symm
  · cases s with
    | code d => exact absurd rfl (hcode d)
    | literal quote body => exact hn
    | lineComment body => exact hn
    | blockComment body => exact hn

theorem plain_of_ne {p : Char → Bool} (hp : ¬ p '"' ∧ ¬ p '\'' ∧ ¬ p '/' ∧ ¬ p '#') {d : Char}
    (hd : p d) : (d ≠ '"' ∧ d ≠ '\'' ∧ d ≠ '/') ∧ d ≠ '#' := by
  refine ⟨⟨?_, ?_, ?_⟩, ?_⟩
  all_goals
    rintro rfl
    simp [hd] at hp

theorem closesAt_of_plain {quote : Char} {body : List Char} (hq : quote ∉ body) (hn : '\n' ∉ body)
    (hb : '\\' ∉ body) (rest : List Char) : ClosesAt quote (body ++ quote :: rest) body rest := by
  refine ⟨rfl, ?_, ?_, ?_⟩
  · intro hescapes
    exact hb ((suffix_of_escapes hescapes).subset (by simp))
  · intro u v huv
    exact absurd (by rw [huv]; simp) hq
  · intro u v huv
    exact absurd (by rw [huv]; simp) hn

theorem restOfLine_of_plain {cs : List Char} (hb : '\\' ∉ cs) :
    restOfLine cs = (cs.takeWhile (· != '\n'), cs.dropWhile (· != '\n')) := by
  fun_induction restOfLine cs with
  | case1 => rfl
  | case2 => simp at hb
  | case3 => simp at hb
  | case4 => simp at hb
  | case5 c cs _ _ _ hn =>
    have hc : c = '\n' := by simpa using hn
    simp [hc]
  | case6 c cs _ _ _ hn ih =>
    have hc : (c != '\n') = true := by simpa using hn
    have hcs : '\\' ∉ cs := fun hmem => hb (List.mem_cons_of_mem c hmem)
    rw [ih hcs, List.takeWhile_cons, List.dropWhile_cons, if_pos hc, if_pos hc]
    rfl

/-- A line, cut where the newline stands. -/
theorem restOfLine_append_line {body rest : List Char} (hbody : '\n' ∉ body)
    (hrest : rest = [] ∨ rest.head? = some '\n') (hb : '\\' ∉ body ++ rest) :
    restOfLine (body ++ rest) = (body, rest) := by
  have hbody' : ∀ d ∈ body, (d != '\n') = true := by
    intro d hd
    rw [bne_iff_ne]
    rintro rfl
    exact hbody hd
  rw [restOfLine_of_plain hb, List.takeWhile_append_of_pos hbody',
    List.dropWhile_append_of_pos hbody']
  rcases hrest with hrest | hrest
  · simp [hrest]
  · obtain ⟨t, ht⟩ := List.head?_eq_some_iff.1 hrest
    simp [ht]

/-- A raw string is a letter and a literal. -/
theorem covers_raw {cs : List Char} {ss : List Stretch} (hs : stretches ('"' :: cs) = some ss)
    (hn : hasSeparator .none (.code 'R' :: ss) = false) :
    ∃ ts us, Covers 'R' ('"' :: cs) (.code 'R' :: ss) ts us := by
  obtain ⟨s, rest, us, hfront, hrest, hss⟩ := stretches_cons hs
  rw [hss] at hn ⊢
  obtain ⟨body, hliteral, hcs, hbody⟩ := hfront.of_quote (.inl rfl)
  have hcut := cut_raw hbody rest
  rw [← hcs] at hcut
  rw [hliteral] at hn ⊢
  refine ⟨[.code 'R', .literal '"' body], us, rfl, ?_, ?_, ?_, by simp, ?_⟩
  · rw [hcut]
    exact hrest
  · rw [hcut]
    simp [Stretch.text]
  · intro line
    rw [hcut, commentsOf_singleton]
    rfl
  · rw [hasSeparator, hasSeparator, Bool.or_eq_false_iff] at hn
    exact hn.2

/-- A character of code on its own. -/
theorem covers_one {c : Char} {cs : List Char} {ss : List Stretch} {k : Kind} (hc : c ≠ '#')
    (hcut : cut c cs = ⟨some k, [c], cs⟩) (hk : k.isComment = false)
    (hword : Word.none.extend c = .none) (hs : stretches cs = some ss)
    (hn : hasSeparator .none (.code c :: ss) = false) :
    ∃ ts us, Covers c cs (.code c :: ss) ts us := by
  have hrun : cut c cs = cutRun k (fun _ => false) c cs := by
    rw [hcut]
    cases cs <;> rfl
  refine covers_run hrun hk hc ?_ hword (by simp) (fun d _ => rfl) hs hn
  intro d hd
  exact plain_of_ne (by decide) (List.mem_takeWhile_imp hd)

theorem covers_number {c : Char} {cs : List Char} {ss : List Stretch} (hc : c ≠ '#')
    (hdigit : c.isDigit) (hcut : cut c cs = cutRun .number isNumberRest c cs)
    (hs : stretches cs = some ss) (hn : hasSeparator .none (.code c :: ss) = false) :
    ∃ ts us, Covers c cs (.code c :: ss) ts us := by
  refine covers_run hcut rfl hc ?_ (extend_none_of_isDigit hdigit) ?_ ?_ hs hn
  · intro d hd
    have hrest : isNumberRest d := List.mem_takeWhile_imp hd
    have hsep : d ≠ '\'' := fun he => quote_not_mem_number hdigit hs hn (he ▸ hd)
    refine ⟨⟨?_, hsep, ?_⟩, ?_⟩
    all_goals
      rintro rfl
      exact absurd hrest (by decide)
  · intro d hd
    simp [Word.extend, hd]
  · intro d hd
    simp [Word.extend, hd]

/-- What a lexeme that begins with code can be. -/
theorem cut_cases {c : Char} {cs : List Char} (hc : c ≠ '#') (hquote : ¬ (c = '"' ∨ c = '\''))
    (hslash : c = '/' → cs.head? ≠ some '/' ∧ cs.head? ≠ some '*') :
    (isSpace c ∧ cut c cs = cutRun .whitespace isSpace c cs) ∨
    (isLetter c ∧ cut c cs = cutRun .identifier isIdentifierRest c cs) ∨
    (c = 'R' ∧ ∃ rest, cs = '"' :: rest) ∨
    (c.isDigit ∧ cut c cs = cutRun .number isNumberRest c cs) ∨
    (Word.none.extend c = .none ∧
      ∃ k : Kind, k.isComment = false ∧ cut c cs = ⟨some k, [c], cs⟩) := by
  obtain ⟨hdouble, hsingle⟩ := not_or.1 hquote
  by_cases hspace : isSpace c
  · refine .inl ⟨hspace, ?_⟩
    unfold cut
    rw [if_pos hspace]
  by_cases hnewline : c = '\n'
  · rw [hnewline]
    exact .inr (.inr (.inr (.inr ⟨by decide, .newline, rfl, rfl⟩)))
  by_cases hletter : isLetter c
  · by_cases hraw : c = 'R' ∧ ∃ rest, cs = '"' :: rest
    · exact .inr (.inr (.inl hraw))
    · refine .inr (.inl ⟨hletter, ?_⟩)
      simp only [cut, hspace, hnewline, hc, hdouble, hsingle, hletter, beq_iff_eq,
        Bool.false_eq_true, if_false, if_true]
      split
      · simp at hraw
      · rfl
  by_cases hdigit : c.isDigit
  · refine .inr (.inr (.inr (.inl ⟨hdigit, ?_⟩)))
    simp only [cut, hspace, hnewline, hc, hdouble, hsingle, hletter, hdigit, beq_iff_eq,
      Bool.false_eq_true, if_false, if_true]
  · refine .inr (.inr (.inr (.inr ⟨?_, .punctuation, rfl, ?_⟩)))
    · simp [Word.extend, hdigit, hletter]
    · simp only [cut, hspace, hnewline, hc, hdouble, hsingle, hletter, hdigit, beq_iff_eq,
        Bool.false_eq_true, if_false]
      split
      · simp at hslash
      · simp at hslash
      · rfl

/-- A lexeme that begins with code consists of code, or is a raw string. -/
theorem covers_code {c : Char} {cs : List Char} {ss : List Stretch} (hc : c ≠ '#')
    (hquote : ¬ (c = '"' ∨ c = '\''))
    (hslash : c = '/' → cs.head? ≠ some '/' ∧ cs.head? ≠ some '*')
    (hs : stretches cs = some ss) (hn : hasSeparator .none (.code c :: ss) = false) :
    ∃ ts us, Covers c cs (.code c :: ss) ts us := by
  rcases cut_cases hc hquote hslash with
    ⟨hspace, hcut⟩ | ⟨hletter, hcut⟩ | ⟨hR, rest, hcs⟩ | ⟨hdigit, hcut⟩ | ⟨hword, k, hk, hcut⟩
  · refine covers_run hcut rfl hc ?_ (extend_none_of_isSpace hspace) ?_ (fun d _ => rfl) hs hn
    · intro d hd
      exact plain_of_ne (by decide) (List.mem_takeWhile_imp hd)
    · intro d hd
      exact extend_none_of_isSpace hd
  · refine covers_run hcut rfl hc ?_ (extend_none_of_isLetter hletter) ?_ ?_ hs hn
    · intro d hd
      exact plain_of_ne (by decide) (List.mem_takeWhile_imp hd)
    · intro d hd
      simp [Word.extend, hd]
    · intro d hd
      simp [Word.extend, hd]
  · rw [hR] at hn ⊢
    rw [hcs] at hs ⊢
    exact covers_raw hs hn
  · exact covers_number hc hdigit hcut hs hn
  · exact covers_one hc hcut hk hword hs hn

/-- Every lexeme but a directive consists of whole stretches. -/
theorem exists_covers {c : Char} {cs : List Char} {ss : List Stretch} (hb : '\\' ∉ cs)
    (hc : c ≠ '#') (hs : stretches (c :: cs) = some ss) (hn : hasSeparator .none ss = false) :
    ∃ ts us, Covers c cs ss ts us := by
  obtain ⟨s, rest, ss', hfront, hrest, hss⟩ := stretches_cons hs
  rw [hss] at hn ⊢
  cases hfront with
  | @lineComment body _ hbody hend =>
    have hcut : cut '/' ('/' :: (body ++ rest)) =
        ⟨some .lineComment, (Stretch.lineComment body).text, rest⟩ := by
      show cutLine .lineComment ['/', '/'] (body ++ rest) = _
      rw [cutLine, restOfLine_append_line hbody hend fun hmem => hb (List.mem_cons_of_mem _ hmem)]
      rfl
    exact covers_single hcut rfl (by simp) hrest hn
  | blockComment hfirst =>
    exact covers_single (k := .blockComment) (cut_block hfirst) rfl (by simp) hrest hn
  | @literal _ body _ hquote hbody hline =>
    have hcloses := closesAt_of_plain hbody hline (fun hmem => hb (by simp [hmem])) rest
    rcases hquote with hquote | hquote
    · rw [hquote] at hcloses hn ⊢
      exact covers_single (cut_literal (k := .string) rfl hcloses) rfl (by simp) hrest hn
    · rw [hquote] at hcloses hn ⊢
      exact covers_single (cut_literal (k := .character) rfl hcloses) rfl (by simp) hrest hn
  | code hquote hslash => exact covers_code hc hquote hslash hrest hn

theorem commentsOf_cons (l : Lexeme) (ls : List Lexeme) :
    Remark.commentsOf (l :: ls) = Remark.commentsOf [l] ++ Remark.commentsOf ls := by
  simp only [Remark.commentsOf, ← List.map_append, ← List.filter_append, List.singleton_append]

/-- Behind the end of a line, remarks are on later lines, as long as these can be counted. -/
theorem line_lt_of_mem_commentsOf {line : Nat} {rest : List Char} {r : Remark}
    (hrest : rest = [] ∨ rest.head? = some '\n') (hn : line + rest.count '\n' < 4294967296)
    (h : r ∈ Remark.commentsOf (scan line rest)) : line < r.line := by
  rcases hrest with hrest | hrest
  · simp [hrest, scan, Remark.commentsOf] at h
  · obtain ⟨t, ht⟩ := List.head?_eq_some_iff.1 hrest
    have hnewline : scan line ('\n' :: t) =
        ⟨some .newline, ['\n'], line % 4294967296⟩ :: scan (line + 1) t := by
      rw [scan]
      rfl
    rw [ht, hnewline, commentsOf_cons, commentsOf_singleton] at h
    obtain ⟨l, hl, hr⟩ := List.mem_map.1 h
    obtain ⟨before, after, hsplit⟩ := List.append_of_mem (List.mem_of_mem_filter hl)
    obtain ⟨c, cs, hcs, hl', -⟩ := scan_split hsplit
    rw [ht, List.count_cons_self, hcs, List.count_append] at hn
    rw [← hr, hl']
    show line < (line + 1 + (textOf before).count '\n') % 4294967296
    rw [Nat.mod_eq_of_lt (by omega)]
    omega

/-- The remark with its line in 32 bits. -/
def wrapped (r : Remark) : Remark := { r with line := r.line % 4294967296 }

theorem map_wrapped_commentsOf (kind : Option Kind) (w : List Char) (line : Nat) :
    (Remark.commentsOf [⟨kind, w, line⟩]).map wrapped =
      Remark.commentsOf [⟨kind, w, line % 4294967296⟩] := by
  cases hk : kind.any Kind.isComment <;> simp [Remark.commentsOf, wrapped, hk]

/-- A directive takes its line, and with it every comment that begins there. -/
theorem commentsOf_directive_iff {line : Nat} {cs : List Char} {ss : List Stretch} (hb : '\\' ∉ cs)
    (hs : stretches cs = some ss) (hn : hasSeparator .none (.code '#' :: ss) = false)
    (hside : line + cs.count '\n' < 4294967296 ∨ hasMarkedComment false (.code '#' :: ss) = false)
    (ih : ∀ us, stretches (restOfLine cs).2 = some us → hasSeparator .none us = false →
      (line + (restOfLine cs).2.count '\n' < 4294967296 ∨ hasMarkedComment false us = false) →
      (Remark.commentsOf (scan line (restOfLine cs).2) = (commentsIn line us).map wrapped ↔
        hasMarkedComment false us = false)) :
    Remark.commentsOf (scan line (restOfLine cs).2) =
        (commentsIn line (.code '#' :: ss)).map wrapped ↔
      hasMarkedComment false (.code '#' :: ss) = false := by
  obtain ⟨ts, us, rest, hss, hts, hline, hcs, hus, hend⟩ := exists_line hs
  have hcomments : commentsIn line (.code '#' :: ss) = commentsIn line us := by
    rw [hss]
    exact commentsIn_line hts hline line us
  have hmarked : hasMarkedComment false (.code '#' :: ss) = hasMarkedComment true us := by
    rw [hss]
    exact hasMarkedComment_line hts hline us
  have hcount : (restOfLine cs).2.count '\n' ≤ cs.count '\n' := by
    have hsplit := congrArg (List.count '\n') (restOfLine_append cs)
    rw [List.count_append] at hsplit
    omega
  rw [hmarked] at hside
  rw [hcomments, hmarked]
  rcases hend with hend | ⟨s, us', hus', hcomment⟩
  · have hrest : (restOfLine cs).2 = rest := by
      rw [hcs] at hb ⊢
      rw [restOfLine_append_line hline hend hb]
    rw [hrest] at ih hcount ⊢
    rw [hss] at hn
    obtain ⟨w, hw⟩ := exists_hasSeparator (w := Word.none.extend '#') hn
    rw [hasMarkedComment_newline hus hend] at hside ⊢
    exact ih us hus (hasSeparator_newline hus hend hw) (hside.imp_left (by omega))
  · -- The comment is on this line, all comments that are listed are on later ones.
    have hfirst : commentsIn line us = ⟨String.ofList s.text, line⟩ ::
        commentsIn (line + s.text.count '\n') us' := by
      rw [hus', commentsIn, if_pos hcomment]
    have htrue : hasMarkedComment true us = true := by
      rw [hus']
      cases s with
      | code => cases hcomment
      | literal => cases hcomment
      | lineComment => rfl
      | blockComment => rfl
    have hcounted : line + cs.count '\n' < 4294967296 := by simpa [htrue] using hside
    rw [hfirst, htrue]
    refine iff_of_false ?_ (by simp)
    intro hsame
    have hend : (restOfLine cs).2 = [] ∨ (restOfLine cs).2.head? = some '\n' := by
      rw [restOfLine_of_plain hb]
      exact dropWhile_line cs
    have hmem : wrapped ⟨String.ofList s.text, line⟩ ∈
        Remark.commentsOf (scan line (restOfLine cs).2) := by
      rw [hsame]
      exact List.mem_cons_self
    have hlt := line_lt_of_mem_commentsOf hend (by omega) hmem
    have hle : line % 4294967296 ≤ line := Nat.mod_le _ _
    exact absurd hlt (Nat.not_lt.2 hle)

/-- The lexemes list the comments that one pass finds, just if none of these is on the line of a
directive. Where lines cannot be counted in 32 bits, only one direction is left. -/
theorem commentsOf_scan_iff {line : Nat} {cs : List Char} {ss : List Stretch} (hb : '\\' ∉ cs)
    (hs : stretches cs = some ss) (hn : hasSeparator .none ss = false)
    (hside : line + cs.count '\n' < 4294967296 ∨ hasMarkedComment false ss = false) :
    Remark.commentsOf (scan line cs) = (commentsIn line ss).map wrapped ↔
      hasMarkedComment false ss = false := by
  fun_induction scan line cs generalizing ss with
  | case1 line =>
    rw [stretches] at hs
    rw [← Option.some.inj hs]
    exact iff_of_true rfl rfl
  | case2 line c cs next =>
    rename_i ih
    have hb' : '\\' ∉ next.rest := by
      intro hmem
      have happend : '\\' ∈ next.text ++ next.rest := List.mem_append_right _ hmem
      rw [cut_append] at happend
      exact hb happend
    have hcs : '\\' ∉ cs := fun hmem => hb (List.mem_cons_of_mem c hmem)
    have hlines : (c :: cs).count '\n' = next.text.count '\n' + next.rest.count '\n' := by
      rw [← cut_append c cs, List.count_append]
    rw [commentsOf_cons]
    by_cases hc : c = '#'
    · obtain ⟨ss', hs', hss⟩ := stretches_append (w := [c]) (by simp [hc]) hs
      have hnext : next = cutLine .directive ['#'] cs := by
        show cut c cs = _
        rw [hc]
        rfl
      have hcount : next.text.count '\n' = 0 := by
        rw [hnext, cutLine, restOfLine_of_plain hcs]
        exact List.count_eq_zero_of_not_mem (by simp [takeWhile_line])
      have hlisted : Remark.commentsOf [⟨next.kind, next.text, line % 4294967296⟩] = [] := by
        rw [hnext]
        exact commentsOf_singleton .directive _ _
      have hfirst : (c :: cs).count '\n' = cs.count '\n' := by
        rw [hc]
        exact List.count_cons_of_ne (by decide)
      rw [hfirst, hss, hc] at hside
      rw [hcount, Nat.add_zero, hnext] at ih
      rw [hlisted, hcount, Nat.add_zero, hnext, hss, hc]
      rw [hss, hc] at hn
      rw [hnext] at hb'
      exact commentsOf_directive_iff hcs hs' hn hside fun us hus hsep hside => ih hb' hus hsep hside
    · obtain ⟨ts, us, hcovers⟩ := exists_covers hcs hc hs hn
      have hmarked : hasMarkedComment false ss = hasMarkedComment false us := by
        rw [hcovers.split, hasMarkedComment_append hcovers.unmarked]
      rw [hmarked, hlines, ← Nat.add_assoc] at hside
      have ih := ih hb' hcovers.rest hcovers.separators hside
      rw [hmarked, hcovers.split, commentsIn_append, List.map_append, hcovers.comments,
        map_wrapped_commentsOf, hcovers.text, List.append_cancel_left_eq, ih]

/-- Comments stand on lines that can be counted, if all lines can. -/
theorem map_wrapped_commentsIn {line : Nat} {ss : List Stretch}
    (h : line + (ss.flatMap Stretch.text).count '\n' < 4294967296) :
    (commentsIn line ss).map wrapped = commentsIn line ss := by
  induction ss generalizing line with
  | nil => rfl
  | cons s ss ih =>
    rw [List.flatMap_cons, List.count_append, ← Nat.add_assoc] at h
    have hline : line % 4294967296 = line := Nat.mod_eq_of_lt (by omega)
    have hfirst : wrapped ⟨String.ofList s.text, line⟩ = ⟨String.ofList s.text, line⟩ := by
      simp [wrapped, hline]
    rw [commentsIn]
    split_ifs
    · rw [List.map_cons, hfirst, ih h]
    · exact ih h

/-- The comments of a source are those that one pass over it finds, with lines in 32 bits, if no
comment stands behind a `#` on its line. For a source whose lines can be counted in 32 bits they are
those comments just in this case. -/
theorem comments_eq_iff {source : String} {ss : List Stretch} (hb : '\\' ∉ source.toList)
    (hs : stretches source.toList = some ss) (hn : hasSeparator .none ss = false) :
    (hasMarkedComment false ss = false →
      Remark.comments source = (commentsIn 1 ss).map wrapped) ∧
    (source.toList.count '\n' < 4294967295 →
      (Remark.comments source = commentsIn 1 ss ↔ hasMarkedComment false ss = false)) := by
  constructor
  · intro hmarked
    exact (commentsOf_scan_iff hb hs hn (.inr hmarked)).2 hmarked
  · intro hlines
    have hlines : 1 + source.toList.count '\n' < 4294967296 := by omega
    have hwrapped : (commentsIn 1 ss).map wrapped = commentsIn 1 ss := by
      apply map_wrapped_commentsIn
      rwa [flatMap_text_stretches hs]
    rw [← hwrapped]
    exact commentsOf_scan_iff hb hs hn (.inl hlines)

theorem comments_eq_of_unmarked :
    '\\' ∉ "#x\nu1'\"'/*\n*///\"".toList ∧
      stretches "#x\nu1'\"'/*\n*///\"".toList =
        some [.code '#', .code 'x', .code '\n', .code 'u', .code '1', .literal '\'' ['"'],
          .blockComment ['\n'], .lineComment ['"']] ∧
      "#x\nu1'\"'/*\n*///\"".toList.count '\n' < 4294967295 ∧
      Remark.comments "#x\nu1'\"'/*\n*///\"" = [⟨"/*\n*/", 2⟩, ⟨"//\"", 3⟩] := by
  have hs : stretches "#x\nu1'\"'/*\n*///\"".toList =
      some [.code '#', .code 'x', .code '\n', .code 'u', .code '1', .literal '\'' ['"'],
        .blockComment ['\n'], .lineComment ['"']] := by
    decide +kernel
  have hlines : "#x\nu1'\"'/*\n*///\"".toList.count '\n' < 4294967295 := by decide
  refine ⟨by decide, hs, hlines, ?_⟩
  exact ((comments_eq_iff (by decide) hs (by decide)).2 hlines).2 (by decide)

/-- The comment behind a directive is not listed. -/
theorem comments_marked :
    '\\' ∉ "#define A 1 // one\n".toList ∧
      (stretches "#define A 1 // one\n".toList).map (hasSeparator .none) = some false ∧
      (stretches "#define A 1 // one\n".toList).map (commentsIn 1) = some [⟨"// one", 1⟩] ∧
      Remark.comments "#define A 1 // one\n" = [] := by
  decide +kernel

end CSymbols.OnePass

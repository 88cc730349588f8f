import CSymbols.Proofs.Terminators

/-! The comments of a source, found by one pass over it that knows of literals and comments only. -/
namespace CSymbols.OnePass
open Lexeme

/-- A stretch of a source. What is no literal and no comment is code, a character at a time. -/
inductive Stretch where
  | code (c : Char)
  | literal (quote : Char) (body : List Char)
  | lineComment (body : List Char)
  | blockComment (body : List Char)
  deriving DecidableEq, Repr

namespace Stretch

def text : Stretch → List Char
  | code c => [c]
  | literal quote body => quote :: (body ++ [quote])
  | lineComment body => '/' :: '/' :: body
  | blockComment body => '/' :: '*' :: (body ++ ['*', '/'])

def isComment : Stretch → Bool
  | code _ | literal _ _ => false
  | lineComment _ | blockComment _ => true

end Stretch

/-- The stretch at the front of a text that is not empty, and the text behind it; `none` where a
literal is not closed on its line, or a block comment not at all. -/
def front? : Char → List Char → Option (Stretch × List Char)
  | '/', '/' :: cs => some (.lineComment (cs.takeWhile (· != '\n')), cs.dropWhile (· != '\n'))
  | '/', '*' :: cs => (splitAtMark ['*', '/'] cs).map fun r => (.blockComment r.1, r.2)
  | c, cs =>
    if c = '"' ∨ c = '\'' then
      match splitAtMark [c] cs with
      | some (body, rest) => if '\n' ∈ body then none else some (.literal c body, rest)
      | none => none
    else some (.code c, cs)

/-- What the front of a text is. -/
inductive Front : Char → List Char → Stretch → List Char → Prop
  | lineComment {body rest : List Char} (hbody : '\n' ∉ body)
      (hrest : rest = [] ∨ rest.head? = some '\n') :
      Front '/' ('/' :: (body ++ rest)) (.lineComment body) rest
  | blockComment {cs body rest : List Char} (h : FirstAt ['*', '/'] cs body rest) :
      Front '/' ('*' :: cs) (.blockComment body) rest
  | literal {quote : Char} {body rest : List Char} (hquote : quote = '"' ∨ quote = '\'')
      (hbody : quote ∉ body) (hline : '\n' ∉ body) :
      Front quote (body ++ quote :: rest) (.literal quote body) rest
  | code {c : Char} {cs : List Char} (hquote : ¬ (c = '"' ∨ c = '\''))
      (hslash : c = '/' → cs.head? ≠ some '/' ∧ cs.head? ≠ some '*') : Front c cs (.code c) cs

theorem takeWhile_line (cs : List Char) : '\n' ∉ cs.takeWhile (· != '\n') := by
  intro hmem
  exact absurd (List.mem_takeWhile_imp hmem) (by decide)

theorem dropWhile_line (cs : List Char) :
    cs.dropWhile (· != '\n') = [] ∨ (cs.dropWhile (· != '\n')).head? = some '\n' := by
  cases hrest : cs.dropWhile (· != '\n') with
  | nil => exact .inl rfl
  | cons d rest =>
    have hd := List.head?_dropWhile_not (· != '\n') cs
    rw [hrest] at hd
    exact .inr (by simpa using hd)

theorem firstAt_not_mem {c : Char} {cs body rest : List Char} (h : FirstAt [c] cs body rest) :
    c ∉ body := by
  intro hmem
  obtain ⟨u, v, huv⟩ := List.append_of_mem hmem
  have hle := h.first u (v ++ c :: rest) (by rw [h.text_eq, huv]; simp)
  rw [huv, List.length_append, List.length_cons] at hle
  omega

theorem front_of_front? {c : Char} {cs rest : List Char} {s : Stretch}
    (h : front? c cs = some (s, rest)) : Front c cs s rest := by
  unfold front? at h
  split at h
  · next cs =>
    obtain ⟨hs, hrest⟩ := Prod.mk.inj (Option.some.inj h)
    have hfront := Front.lineComment (takeWhile_line cs) (dropWhile_line cs)
    rwa [List.takeWhile_append_dropWhile, hs, hrest] at hfront
  · next cs =>
    obtain ⟨⟨body, behind⟩, hsplit, he⟩ := Option.map_eq_some_iff.1 h
    obtain ⟨hs, hrest⟩ : Stretch.blockComment body = s ∧ behind = rest := Prod.mk.inj he
    rw [← hs, ← hrest]
    exact .blockComment (firstAt_of_splitAtMark hsplit)
  · next hline hblock =>
    split_ifs at h with hquote
    · cases hsplit : splitAtMark [c] cs with
      | none => simp [hsplit] at h
      | some r =>
        obtain ⟨body, behind⟩ := r
        have hfirst := firstAt_of_splitAtMark hsplit
        rw [hsplit] at h
        simp only at h
        split_ifs at h with hnewline
        obtain ⟨hs, hrest⟩ : Stretch.literal c body = s ∧ behind = rest :=
          Prod.mk.inj (Option.some.inj h)
        rw [← hs, ← hrest, hfirst.text_eq]
        exact .literal hquote (firstAt_not_mem hfirst) hnewline
    · obtain ⟨hs, hrest⟩ := Prod.mk.inj (Option.some.inj h)
      rw [← hs, ← hrest]
      refine .code hquote fun hc => ⟨?_, ?_⟩
      · intro hhead
        obtain ⟨t, ht⟩ := List.head?_eq_some_iff.1 hhead
        exact hline t hc ht
      · intro hhead
        obtain ⟨t, ht⟩ := List.head?_eq_some_iff.1 hhead
        exact hblock t hc ht

theorem Front.text_append {c : Char} {cs rest : List Char} {s : Stretch} (h : Front c cs s rest) :
    s.text ++ rest = c :: cs := by
  cases h with
  | lineComment => rfl
  | blockComment h => simp [Stretch.text, h.text_eq]
  | literal => simp [Stretch.text]
  | code => rfl

theorem Front.length_lt {c : Char} {cs rest : List Char} {s : Stretch} (h : Front c cs s rest) :
    rest.length < (c :: cs).length := by
  have hpos : 0 < s.text.length := by cases s <;> simp [Stretch.text]
  rw [← h.text_append, List.length_append]
  omega

theorem Front.of_quote {quote : Char} {cs rest : List Char} {s : Stretch}
    (hquote : quote = '"' ∨ quote = '\'') (h : Front quote cs s rest) :
    ∃ body, s = .literal quote body ∧ cs = body ++ quote :: rest ∧ quote ∉ body := by
  cases h with
  | lineComment => exact absurd hquote (by decide)
  | blockComment => exact absurd hquote (by decide)
  | @literal _ body _ _ hbody => exact ⟨body, rfl, rfl, hbody⟩
  | code hcode => exact absurd hquote hcode

theorem Front.of_code {c : Char} {cs rest : List Char} {s : Stretch}
    (hc : c ≠ '"' ∧ c ≠ '\'' ∧ c ≠ '/') (h : Front c cs s rest) : s = .code c ∧ rest = cs := by
  cases h with
  | lineComment => exact absurd rfl hc.2.2
  | blockComment => exact absurd rfl hc.2.2
  | literal hquote => exact absurd hquote (not_or.2 ⟨hc.1, hc.2.1⟩)
  | code => exact ⟨rfl, rfl⟩

/-- The stretches of a text. -/
def stretches : List Char → Option (List Stretch)
  | [] => some []
  | c :: cs =>
    match _h : front? c cs with
    | none => none
    | some (s, rest) => (stretches rest).map (s :: ·)
  termination_by cs => cs.length
  decreasing_by exact (front_of_front? _h).length_lt

theorem stretches_cons {c : Char} {cs : List Char} {ss : List Stretch}
    (h : stretches (c :: cs) = some ss) :
    ∃ s rest ss', Front c cs s rest ∧ stretches rest = some ss' ∧ ss = s :: ss' := by
  rw [stretches] at h
  split at h
  · cases h
  · next s rest hfront =>
    obtain ⟨ss', hss', he⟩ := Option.map_eq_some_iff.1 h
    exact ⟨s, rest, ss', front_of_front? hfront, hss', he.symm⟩

/-- The stretches of a text make it up. -/
theorem flatMap_text_stretches {cs : List Char} {ss : List Stretch} (h : stretches cs = some ss) :
    ss.flatMap Stretch.text = cs := by
  induction ss generalizing cs with
  | nil =>
    cases cs with
    | nil => rfl
    | cons c cs =>
      obtain ⟨s, rest, ss', -, -, hss⟩ := stretches_cons h
      cases hss
  | cons s ss ih =>
    cases cs with
    | nil =>
      rw [stretches] at h
      cases h
    | cons c cs =>
      obtain ⟨s', rest, ss', hfront, hrest, hss⟩ := stretches_cons h
      obtain ⟨rfl, rfl⟩ := List.cons.inj hss
      rw [List.flatMap_cons, ih hrest, hfront.text_append]

/-- The comments among stretches, of which the first begins on the given line. -/
def commentsIn (line : Nat) : List Stretch → List Remark
  | [] => []
  | s :: ss =>
    if s.isComment then
      ⟨String.ofList s.text, line⟩ :: commentsIn (line + s.text.count '\n') ss
    else commentsIn (line + s.text.count '\n') ss

/-- A comment stands behind a `#` on its line; `marked` tells whether one has been seen there. -/
def hasMarkedComment (marked : Bool) : List Stretch → Bool
  | [] => false
  | .code c :: ss => hasMarkedComment (c != '\n' && (marked || c == '#')) ss
  | .literal _ _ :: ss => hasMarkedComment marked ss
  | .lineComment _ :: ss | .blockComment _ :: ss => marked || hasMarkedComment marked ss

/-- What the characters of code in front of a place belong to. -/
inductive Word where
  | none
  | name
  | number
  deriving DecidableEq, Repr

/-- What a character of code belongs to, by what is in front of it. -/
def Word.extend (w : Word) (c : Char) : Word :=
  if (w = .number ∧ isNumberRest c) ∨ (w = .name ∧ isIdentifierRest c) then w
  else if c.isDigit then .number
  else if isLetter c then .name
  else .none

/-- A single quote stands directly behind a number. -/
def hasSeparator (w : Word) : List Stretch → Bool
  | [] => false
  | .code c :: ss => hasSeparator (w.extend c) ss
  | .literal quote _ :: ss => (w == .number && quote == '\'') || hasSeparator .none ss
  | .lineComment _ :: ss | .blockComment _ :: ss => hasSeparator .none ss

theorem commentsIn_append (line : Nat) (ss ts : List Stretch) :
    commentsIn line (ss ++ ts) =
      commentsIn line ss ++ commentsIn (line + (ss.flatMap Stretch.text).count '\n') ts := by
  induction ss generalizing line with
  | nil => rfl
  | cons s ss ih =>
    rw [List.cons_append, commentsIn, commentsIn, ih, List.flatMap_cons, List.count_append,
      ← Nat.add_assoc]
    split_ifs <;> rfl

theorem commentsIn_of_not_isComment {ss : List Stretch} (h : ∀ s ∈ ss, s.isComment = false)
    (line : Nat) : commentsIn line ss = [] := by
  induction ss generalizing line with
  | nil => rfl
  | cons s ss ih =>
    obtain ⟨hs, hss⟩ := List.forall_mem_cons.1 h
    rw [commentsIn, hs]
    exact ih hss _

/-- A mark is set by a `#` only. -/
theorem hasMarkedComment_append {ss : List Stretch} (h : .code '#' ∉ ss) (ts : List Stretch) :
    hasMarkedComment false (ss ++ ts) = hasMarkedComment false ts := by
  induction ss with
  | nil => rfl
  | cons s ss ih =>
    obtain ⟨hs, hss⟩ := not_or.1 (mt List.mem_cons.2 h)
    have ih := ih hss
    cases s with
    | code c =>
      have hc : (c == '#') = false := by
        rw [beq_eq_false_iff_ne]
        rintro rfl
        exact hs rfl
      simpa [hasMarkedComment, hc] using ih
    | literal => exact ih
    | lineComment => exact ih
    | blockComment => exact ih

theorem hasSeparator_append (w : Word) (cs : List Char) (ss : List Stretch) :
    hasSeparator w (cs.map .code ++ ss) = hasSeparator (cs.foldl Word.extend w) ss := by
  induction cs generalizing w with
  | nil => rfl
  | cons c cs ih => exact ih (w.extend c)

/-- Where no word goes on, that there was one does not matter any more. -/
theorem hasSeparator_none {w : Word} {rest : List Char} {ss : List Stretch}
    (hs : stretches rest = some ss)
    (hhead : ∀ d, rest.head? = some d → w.extend d = Word.none.extend d)
    (h : hasSeparator w ss = false) : hasSeparator .none ss = false := by
  cases rest with
  | nil =>
    rw [stretches] at hs
    rw [← Option.some.inj hs]
    rfl
  | cons d rest =>
    obtain ⟨s, behind, ss', hfront, -, hss⟩ := stretches_cons hs
    rw [hss] at h ⊢
    cases hfront with
    | lineComment => exact h
    | blockComment => exact h
    | literal =>
      rw [hasSeparator, Bool.or_eq_false_iff] at h
      exact h.2
    | code =>
      rw [hasSeparator, hhead d rfl] at h
      exact h

/-- A run of code that opens no literal and no comment. -/
theorem stretches_append {w rest : List Char} {ss : List Stretch}
    (hw : ∀ c ∈ w, c ≠ '"' ∧ c ≠ '\'' ∧ c ≠ '/') (h : stretches (w ++ rest) = some ss) :
    ∃ ss', stretches rest = some ss' ∧ ss = w.map .code ++ ss' := by
  induction w generalizing ss with
  | nil => exact ⟨ss, h, rfl⟩
  | cons c w ih =>
    obtain ⟨hc, hw⟩ := List.forall_mem_cons.1 hw
    rw [List.cons_append] at h
    obtain ⟨s, behind, ss', hfront, hbehind, hss⟩ := stretches_cons h
    obtain ⟨hs, hbehind'⟩ := hfront.of_code hc
    rw [hbehind'] at hbehind
    obtain ⟨ss'', hrest, hss'⟩ := ih hw hbehind
    exact ⟨ss'', hrest, by rw [hss, hs, hss']; rfl⟩

theorem isComment_of_mem_code {cs : List Char} {s : Stretch} (h : s ∈ cs.map Stretch.code) :
    s.isComment = false := by
  obtain ⟨c, -, hc⟩ := List.mem_map.1 h
  rw [← hc]
  rfl

theorem flatMap_text_code (cs : List Char) : (cs.map Stretch.code).flatMap Stretch.text = cs := by
  simp [List.flatMap_map, Stretch.text]

theorem foldl_extend {w : Word} {p : Char → Bool} (hstay : ∀ d, p d → w.extend d = w)
    {cs : List Char} (h : ∀ d ∈ cs, p d) : cs.foldl Word.extend w = w := by
  induction cs with
  | nil => rfl
  | cons d cs ih =>
    obtain ⟨hd, hcs⟩ := List.forall_mem_cons.1 h
    rw [List.foldl_cons, hstay d hd, ih hcs]

theorem extend_none_of_isSpace {c : Char} (h : isSpace c) : Word.none.extend c = .none := by
  have hdigit : ¬ c.isDigit := fun hd => not_isSpace_of hd (by decide) h
  have hletter : ¬ isLetter c := fun hl => not_isSpace_of hl (by decide) h
  simp [Word.extend, hdigit, hletter]

theorem extend_none_of_isLetter {c : Char} (h : isLetter c) : Word.none.extend c = .name := by
  have hdigit : ¬ c.isDigit := fun hd => not_isLetter_of_isDigit hd h
  simp [Word.extend, hdigit, h]

theorem extend_none_of_isDigit {c : Char} (h : c.isDigit) : Word.none.extend c = .number := by
  simp [Word.extend, h]

/-- Without a separator, a number goes on with no quote. -/
theorem quote_not_mem_number {c : Char} {cs : List Char} {ss : List Stretch} (hc : c.isDigit)
    (hs : stretches cs = some ss) (hn : hasSeparator .none (.code c :: ss) = false) :
    '\'' ∉ cs.takeWhile isNumberRest := by
  intro hmem
  obtain ⟨u, v, huv, hu⟩ := List.eq_append_cons_of_mem hmem
  have hrest : ∀ d ∈ u, isNumberRest d := by
    intro d hd
    have hd' : d ∈ cs.takeWhile isNumberRest := by
      rw [huv]
      exact List.mem_append_left _ hd
    exact List.mem_takeWhile_imp hd'
  have hplain : ∀ d ∈ u, d ≠ '"' ∧ d ≠ '\'' ∧ d ≠ '/' := by
    intro d hd
    have hd' := hrest d hd
    refine ⟨?_, fun hquote => hu (hquote ▸ hd), ?_⟩
    all_goals
      rintro rfl
      exact absurd hd' (by decide)
  rw [← List.takeWhile_append_dropWhile (p := isNumberRest) (l := cs), huv, List.append_assoc,
    List.cons_append] at hs
  generalize v ++ cs.dropWhile isNumberRest = tail at hs
  obtain ⟨ss', hbehind, hss⟩ := stretches_append hplain hs
  obtain ⟨s, behind, ss'', hfront, -, hss'⟩ := stretches_cons hbehind
  have hword : (c :: u).foldl Word.extend .none = .number := by
    rw [List.foldl_cons, extend_none_of_isDigit hc]
    exact foldl_extend (fun d hd => by simp [Word.extend, hd]) hrest
  have hwhole : Stretch.code c :: ss = (c :: u).map .code ++ ss' := by
    rw [hss]
    rfl
  rw [hwhole, hasSeparator_append, hword, hss'] at hn
  obtain ⟨body, hs', -⟩ := hfront.of_quote (.inr rfl)
  simp [hasSeparator, hs'] at hn

/-- The stretches of a line without newlines and comments, and what is behind them: the rest of the
text, or a comment. -/
theorem exists_line {cs : List Char} {ss : List Stretch} (hs : stretches cs = some ss) :
    ∃ ts us rest, ss = ts ++ us ∧ (∀ s ∈ ts, s.isComment = false) ∧
      '\n' ∉ ts.flatMap Stretch.text ∧ cs = ts.flatMap Stretch.text ++ rest ∧
      stretches rest = some us ∧
      ((rest = [] ∨ rest.head? = some '\n') ∨ ∃ s us', us = s :: us' ∧ s.isComment) := by
  induction hlength : cs.length using Nat.strong_induction_on generalizing cs ss with
  | _ n ih =>
    -- The line ends here, or its first stretch is put in front of what comes behind that.
    by_cases hend : cs = [] ∨ cs.head? = some '\n'
    · exact ⟨[], ss, cs, rfl, by simp, by simp, rfl, hs, .inl hend⟩
    obtain ⟨hne, hhead⟩ := not_or.1 hend
    obtain ⟨c, cs, hcs⟩ := List.exists_cons_of_ne_nil hne
    rw [hcs] at hs hlength hhead ⊢
    obtain ⟨s, rest, ss', hfront, hrest, hss⟩ := stretches_cons hs
    by_cases hcomment : s.isComment
    · exact ⟨[], ss, c :: cs, rfl, by simp, by simp, rfl, hs, .inr ⟨s, ss', hss, hcomment⟩⟩
    have hline : '\n' ∉ s.text := by
      cases hfront with
      | lineComment => exact absurd rfl hcomment
      | blockComment => exact absurd rfl hcomment
      | literal hquote _ hline =>
        rcases hquote with hquote | hquote <;> simp [Stretch.text, hline, hquote]
      | code =>
        intro hmem
        have hc : '\n' = c := List.mem_singleton.1 hmem
        exact hhead (by rw [hc]; rfl)
    obtain ⟨ts, us, behind, hss', hts, htext, hbehind, hus, hor⟩ :=
      ih rest.length (by rw [← hlength]; exact hfront.length_lt) hrest rfl
    refine ⟨s :: ts, us, behind, by rw [hss, hss']; rfl, ?_, ?_, ?_, hus, hor⟩
    · exact List.forall_mem_cons.2 ⟨by simpa using hcomment, hts⟩
    · simp [hline, htext]
    · rw [← hfront.text_append, hbehind, List.flatMap_cons, List.append_assoc]

theorem hasMarkedComment_line {ts : List Stretch} (hts : ∀ s ∈ ts, s.isComment = false)
    (hline : '\n' ∉ ts.flatMap Stretch.text) (us : List Stretch) :
    hasMarkedComment true (ts ++ us) = hasMarkedComment true us := by
  induction ts with
  | nil => rfl
  | cons s ts ih =>
    obtain ⟨hs, hts⟩ := List.forall_mem_cons.1 hts
    rw [List.flatMap_cons, List.mem_append, not_or] at hline
    have ih := ih hts hline.2
    cases s with
    | code c =>
      have hc : (c != '\n') = true := by
        rw [bne_iff_ne]
        rintro rfl
        exact hline.1 (by simp [Stretch.text])
      rw [List.cons_append, hasMarkedComment, hc]
      exact ih
    | literal => exact ih
    | lineComment => cases hs
    | blockComment => cases hs

theorem exists_hasSeparator {w : Word} {ts us : List Stretch}
    (h : hasSeparator w (ts ++ us) = false) : ∃ w', hasSeparator w' us = false := by
  induction ts generalizing w with
  | nil => exact ⟨w, h⟩
  | cons s ts ih =>
    cases s with
    | code c => exact ih h
    | literal quote body =>
      rw [List.cons_append, hasSeparator, Bool.or_eq_false_iff] at h
      exact ih h.2
    | lineComment => exact ih h
    | blockComment => exact ih h

/-- A newline ends words and marks. -/
theorem hasSeparator_newline {w : Word} {rest : List Char} {us : List Stretch}
    (hs : stretches rest = some us) (hrest : rest = [] ∨ rest.head? = some '\n')
    (h : hasSeparator w us = false) : hasSeparator .none us = false := by
  refine hasSeparator_none hs ?_ h
  intro d hd
  have hnewline : d = '\n' := by
    rcases hrest with hrest | hrest
    · simp [hrest] at hd
    · exact Option.some.inj (hd.symm.trans hrest)
  rw [hnewline]
  cases w <;> decide

theorem hasMarkedComment_newline {rest : List Char} {us : List Stretch}
    (hs : stretches rest = some us) (hrest : rest = [] ∨ rest.head? = some '\n') :
    hasMarkedComment true us = hasMarkedComment false us := by
  rcases hrest with hrest | hrest
  · rw [hrest, stretches] at hs
    rw [← Option.some.inj hs]
    rfl
  · obtain ⟨t, ht⟩ := List.head?_eq_some_iff.1 hrest
    rw [ht] at hs
    obtain ⟨s, behind, us', hfront, -, hus⟩ := stretches_cons hs
    rw [hus, (hfront.of_code (by decide)).1]
    rfl

theorem commentsIn_line {ts : List Stretch} (hts : ∀ s ∈ ts, s.isComment = false)
    (hline : '\n' ∉ ts.flatMap Stretch.text) (line : Nat) (us : List Stretch) :
    commentsIn line (ts ++ us) = commentsIn line us := by
  rw [commentsIn_append, commentsIn_of_not_isComment hts, List.count_eq_zero_of_not_mem hline]
  rfl

end CSymbols.OnePass

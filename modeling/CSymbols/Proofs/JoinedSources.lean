import CSymbols.Proofs.DirectiveLines
import CSymbols.Proofs.SilentLiterals

/-! Sources that are joined at the end of a line. Each lexeme reaches as far as it can, so that text
behind a source might make one of its lexemes longer. Behind a newline lexeme that is so only where
a block comment or a raw string was begun and has no end. -/
namespace CSymbols.Lexeme

/-- A slash and an asterisk: a block comment that has no end. -/
def OpensBlock (l m : Lexeme) : Prop :=
  (l.kind = some .punctuation ∧ l.text = ['/']) ∧ m.kind = some .punctuation ∧ m.text = ['*']

/-- The name `R` in front of an unclosed literal, as of a raw string that has no end. -/
def OpensRaw (l m : Lexeme) : Prop :=
  (l.kind = some .identifier ∧ l.text = ['R']) ∧ m.kind = none

instance (l m : Lexeme) : Decidable (OpensBlock l m) := inferInstanceAs (Decidable (_ ∧ _))

instance (l m : Lexeme) : Decidable (OpensRaw l m) := inferInstanceAs (Decidable (_ ∧ _))

/-- Lexemes that end with a line and leave nothing open. -/
structure SelfContained (ls : List Lexeme) : Prop where
  ended : ∃ l ∈ ls.getLast?, l.kind = some .newline
  noBlock : ls.IsChain fun l m => ¬ OpensBlock l m
  noRaw : ls.IsChain fun l m => ¬ OpensRaw l m

/-- A comment or a raw string without an end begins at the front of a text. -/
inductive Unended : Char → List Char → Prop
  | block {cs : List Char} (h : restOfBlock cs = none) : Unended '/' ('*' :: cs)
  | raw {cs : List Char} (h : restOfRaw cs = none) : Unended 'R' ('"' :: cs)

theorem quote_not_mem_of_restOfRaw {cs : List Char} (h : restOfRaw cs = none) : '"' ∉ cs := by
  intro hmem
  obtain ⟨u, v, hcs, hu⟩ := List.eq_append_cons_of_mem hmem
  rw [hcs, restOfRaw_append_quote hu] at h
  cases h

theorem Unended.opens {c : Char} {cs : List Char} (h : Unended c cs) (line : Nat) :
    ∃ l m ls, scan line (c :: cs) = l :: m :: ls ∧ (OpensBlock l m ∨ OpensRaw l m) := by
  cases h with
  | @block cs h =>
    have hcut : cut '/' ('*' :: cs) = ⟨some .punctuation, ['/'], '*' :: cs⟩ := by
      show cutBlock cs = _
      rw [cutBlock, h]
    rw [scan, hcut, scan]
    exact ⟨_, _, _, rfl, .inl ⟨⟨rfl, rfl⟩, rfl, rfl⟩⟩
  | @raw cs h =>
    have hcut : cut 'R' ('"' :: cs) = ⟨some .identifier, ['R'], '"' :: cs⟩ := by
      show cutRaw cs = _
      rw [cutRaw, h]
    have hopen : (restOfLiteral '"' cs).1 = false := by
      by_contra hclosed
      have hquote : '"' ≠ '\\' := by decide
      obtain ⟨body, hbody⟩ := closesAt_of_restOfLiteral hquote (by simpa using hclosed)
      exact quote_not_mem_of_restOfRaw h (by rw [hbody.text_eq]; simp)
    have hkind : (cut '"' cs).kind = none := by
      show (cutLiteral .string '"' cs).kind = none
      rw [cutLiteral_kind, hopen]
      rfl
    rw [scan, hcut, scan]
    exact ⟨_, _, _, rfl, .inr ⟨⟨rfl, rfl⟩, hkind⟩⟩

/-- The lexeme at the front of a text that begins with no comment and no raw string: the first
character tells its kind. -/
def cutPlain (c : Char) (cs : List Char) : Cut :=
  if isSpace c then cutRun .whitespace isSpace c cs
  else if c == '\n' then ⟨some .newline, [c], cs⟩
  else if c == '#' then cutLine .directive [c] cs
  else if c == '"' then cutLiteral .string '"' cs
  else if c == '\'' then cutLiteral .character '\'' cs
  else if isLetter c then cutRun .identifier isIdentifierRest c cs
  else if c.isDigit then cutRun .number isNumberRest c cs
  else ⟨some .punctuation, [c], cs⟩

theorem cut_eq_cutPlain {c d : Char} {cs : List Char} (hraw : ¬ (c = 'R' ∧ d = '"'))
    (hline : ¬ (c = '/' ∧ d = '/')) (hblock : ¬ (c = '/' ∧ d = '*')) :
    cut c (d :: cs) = cutPlain c (d :: cs) := by
  unfold cut cutPlain
  iterate 5 refine if_congr Iff.rfl rfl ?_
  refine if_congr Iff.rfl ?_ (if_congr Iff.rfl rfl ?_)
  · split
    · next rest hd => exact absurd ⟨rfl, (List.cons.inj hd).1⟩ hraw
    · rfl
  · split
    · next rest hd => exact absurd ⟨rfl, (List.cons.inj hd).1⟩ hline
    · next rest hd => exact absurd ⟨rfl, (List.cons.inj hd).1⟩ hblock
    · rfl

theorem restOfLine_plain {c : Char} (hc : c ≠ '\\') (cs : List Char) :
    restOfLine (c :: cs) = if c == '\n' then ([], c :: cs) else ahead [c] (restOfLine cs) :=
  restOfLine.eq_5 c cs (fun _ h => absurd h hc) (fun _ _ h => absurd h hc) fun h => absurd h hc

theorem restOfLiteral_plain {quote c : Char} (hc : c ≠ '\\') (cs : List Char) :
    restOfLiteral quote (c :: cs) =
      if c == quote then (true, [c], cs)
      else if c == '\n' then (false, [], c :: cs)
      else (restOfLiteral quote cs).map id (ahead [c]) :=
  restOfLiteral.eq_4 quote c cs (fun _ _ h => absurd h hc) fun h => absurd h hc

section Behind

/-! What a scanner finds does not change with more text behind, if it stops in front of the end. -/

variable (more : List Char)

/-- A line that is stopped by a newline. -/
theorem restOfLine_append_behind {cs : List Char} (h : (restOfLine cs).2.getLast? = some '\n') :
    restOfLine (cs ++ more) = ((restOfLine cs).1, (restOfLine cs).2 ++ more) := by
  fun_induction restOfLine cs with
  | case1 => cases h
  | case2 cs ih =>
    show restOfLine ('\\' :: '\r' :: '\n' :: (cs ++ more)) = _
    rw [restOfLine, ih h]
    rfl
  | case3 c cs hcr ih =>
    have hne : cs ≠ [] := by
      intro hnil
      rw [hnil] at h
      cases h
    have hcr' : ∀ ds, c = '\r' → cs ++ more = '\n' :: ds → False := by
      intro ds hc hds
      obtain ⟨d, cs', hcs'⟩ := List.exists_cons_of_ne_nil hne
      rw [hcs'] at hds
      exact hcr cs' hc (by rw [hcs', (List.cons.inj hds).1])
    rw [List.cons_append, List.cons_append, restOfLine.eq_3 c (cs ++ more) hcr', ih h]
    rfl
  | case4 => cases h
  | case5 c cs _ hb hend hn =>
    have hc : c = '\n' := by simpa using hn
    rw [hc]
    rfl
  | case6 c cs _ hb hend hn ih =>
    rw [List.cons_append, restOfLine_plain (ne_backslash hb hend), if_neg hn, ih h]
    rfl

theorem restOfBlock_append_behind {cs : List Char} {r : List Char × List Char}
    (h : restOfBlock cs = some r) : restOfBlock (cs ++ more) = some (r.1, r.2 ++ more) := by
  fun_induction restOfBlock cs generalizing r with
  | case1 => cases h
  | case2 cs =>
    obtain rfl := Option.some.inj h
    rfl
  | case3 c cs hne ih =>
    obtain ⟨s, hs, rfl⟩ := Option.map_eq_some_iff.1 h
    have hcs := ih hs
    have hne' : ∀ ds, c = '*' → cs ++ more = '/' :: ds → False := by
      intro ds hc hds
      cases cs with
      | nil => cases hs
      | cons d cs => exact hne cs hc (by rw [(List.cons.inj hds).1])
    rw [List.cons_append, restOfBlock.eq_3 c (cs ++ more) hne', hcs]
    rfl

theorem restOfRaw_append_behind {cs : List Char} {r : List Char × List Char}
    (h : restOfRaw cs = some r) : restOfRaw (cs ++ more) = some (r.1, r.2 ++ more) := by
  induction cs generalizing r with
  | nil => cases h
  | cons c cs ih =>
    rw [restOfRaw] at h
    rw [List.cons_append, restOfRaw]
    split_ifs at h ⊢ with hc
    · obtain rfl := Option.some.inj h
      rfl
    · obtain ⟨s, hs, rfl⟩ := Option.map_eq_some_iff.1 h
      rw [ih hs]
      rfl

theorem restOfLiteral_append_behind {quote : Char} {cs : List Char}
    (h : (restOfLiteral quote cs).2.2 ≠ []) :
    restOfLiteral quote (cs ++ more) =
      ((restOfLiteral quote cs).1, (restOfLiteral quote cs).2.1,
        (restOfLiteral quote cs).2.2 ++ more) := by
  fun_induction restOfLiteral quote cs with
  | case1 => exact absurd rfl h
  | case2 c cs ih =>
    show restOfLiteral quote ('\\' :: c :: (cs ++ more)) = _
    rw [restOfLiteral, ih h]
    rfl
  | case3 => exact absurd rfl h
  | case4 c cs hb hend hc =>
    rw [List.cons_append, restOfLiteral_plain (ne_backslash hb hend), if_pos hc]
  | case5 c cs hb hend hc hn =>
    rw [List.cons_append, restOfLiteral_plain (ne_backslash hb hend), if_neg hc, if_pos hn]
  | case6 c cs hb hend hc hn ih =>
    rw [List.cons_append, restOfLiteral_plain (ne_backslash hb hend), if_neg hc, if_neg hn, ih h]
    rfl

end Behind

/-- A way to cut a lexeme off that does not change with more text behind, if the lexeme stops in
front of a last newline. -/
def Steady (f : List Char → Cut) : Prop :=
  ∀ cs more, (f cs).rest.getLast? = some '\n' →
    f (cs ++ more) = ⟨(f cs).kind, (f cs).text, (f cs).rest ++ more⟩

theorem Steady.ite {p : Prop} [Decidable p] {f g : List Char → Cut} (hf : Steady f)
    (hg : Steady g) : Steady fun cs => if p then f cs else g cs := by
  by_cases hp : p
  · simpa only [if_pos hp] using hf
  · simpa only [if_neg hp] using hg

theorem ne_nil_of_getLast? {cs : List Char} {c : Char} (h : cs.getLast? = some c) : cs ≠ [] := by
  intro hnil
  rw [hnil] at h
  cases h

theorem steady_single (k : Kind) (c : Char) : Steady fun cs => ⟨some k, [c], cs⟩ := by
  intro cs more _
  rfl

theorem steady_cutRun (k : Kind) (p : Char → Bool) (c : Char) : Steady (cutRun k p c) := by
  intro cs more h
  have hdrop : cs.dropWhile p ≠ [] := ne_nil_of_getLast? h
  have htake : (cs.takeWhile p).length ≠ cs.length := by
    intro hlength
    have hsplit := congrArg List.length (List.takeWhile_append_dropWhile (p := p) (l := cs))
    rw [List.length_append, hlength] at hsplit
    exact hdrop (List.length_eq_zero_iff.1 (by omega))
  unfold cutRun
  rw [List.takeWhile_append, if_neg htake, List.dropWhile_append, if_neg (by simpa using hdrop)]

theorem steady_cutLine (k : Kind) (mark : List Char) : Steady (cutLine k mark) := by
  intro cs more h
  unfold cutLine at h ⊢
  rw [restOfLine_append_behind more h]

theorem steady_cutLiteral (k : Kind) (quote : Char) : Steady (cutLiteral k quote) := by
  intro cs more h
  have hrest : (restOfLiteral quote cs).2.2 ≠ [] := ne_nil_of_getLast? h
  unfold cutLiteral
  rw [restOfLiteral_append_behind more hrest]

theorem steady_cutPlain (c : Char) : Steady (cutPlain c) :=
  (steady_cutRun .whitespace isSpace c).ite <| (steady_single .newline c).ite <|
    (steady_cutLine .directive [c]).ite <| (steady_cutLiteral .string '"').ite <|
    (steady_cutLiteral .character '\'').ite <|
    (steady_cutRun .identifier isIdentifierRest c).ite <|
    (steady_cutRun .number isNumberRest c).ite (steady_single .punctuation c)

theorem cutBlock_append {cs : List Char} (h : restOfBlock cs ≠ none) (more : List Char) :
    cutBlock (cs ++ more) =
      ⟨(cutBlock cs).kind, (cutBlock cs).text, (cutBlock cs).rest ++ more⟩ := by
  obtain ⟨r, hr⟩ := Option.ne_none_iff_exists'.1 h
  rw [cutBlock, restOfBlock_append_behind more hr, cutBlock, hr]

theorem cutRaw_append {cs : List Char} (h : restOfRaw cs ≠ none) (more : List Char) :
    cutRaw (cs ++ more) = ⟨(cutRaw cs).kind, (cutRaw cs).text, (cutRaw cs).rest ++ more⟩ := by
  obtain ⟨r, hr⟩ := Option.ne_none_iff_exists'.1 h
  rw [cutRaw, restOfRaw_append_behind more hr, cutRaw, hr]

/-- A lexeme that stops in front of a last newline is the same with more text behind, unless it
begins what has no end. -/
theorem cut_append_behind {c : Char} {cs : List Char} (hun : ¬ Unended c cs)
    (hend : (cut c cs).rest.getLast? = some '\n') (more : List Char) :
    cut c (cs ++ more) = ⟨(cut c cs).kind, (cut c cs).text, (cut c cs).rest ++ more⟩ := by
  obtain ⟨d, ds, hcs⟩ : ∃ d ds, cs = d :: ds := by
    cases cs with
    | nil =>
      have hlength := cut_rest_length c []
      have hnil : (cut c []).rest = [] := List.length_eq_zero_iff.1 (by simpa using hlength)
      exact absurd hnil (ne_nil_of_getLast? hend)
    | cons d ds => exact ⟨d, ds, rfl⟩
  rw [hcs] at hun hend ⊢
  by_cases hraw : c = 'R' ∧ d = '"'
  · obtain ⟨hc, hd⟩ := hraw
    rw [hc, hd] at hun ⊢
    exact cutRaw_append (fun hr => hun (.raw hr)) more
  by_cases hline : c = '/' ∧ d = '/'
  · obtain ⟨hc, hd⟩ := hline
    rw [hc, hd] at hend ⊢
    exact steady_cutLine .lineComment ['/', '/'] ds more hend
  by_cases hblock : c = '/' ∧ d = '*'
  · obtain ⟨hc, hd⟩ := hblock
    rw [hc, hd] at hun ⊢
    exact cutBlock_append (fun hr => hun (.block hr)) more
  rw [List.cons_append]
  rw [cut_eq_cutPlain hraw hline hblock] at hend ⊢
  rw [cut_eq_cutPlain hraw hline hblock]
  exact steady_cutPlain c (d :: ds) more hend

theorem cut_newline {c : Char} {cs : List Char} (h : (cut c cs).kind = some .newline) :
    c = '\n' := by
  obtain ⟨d, w, hw⟩ := List.exists_cons_of_ne_nil (cut_text_ne_nil c cs)
  have hwins := cut_wins h
  have hfront := hwins.front
  have hmem := hwins.mem
  rw [hw] at hfront hmem
  have hd : d = '\n' := (cons_mem_pattern.1 hmem).1
  rw [← (List.cons_prefix_cons.1 hfront).1, hd]

theorem SelfContained.getLast? {line : Nat} {cs : List Char} (h : SelfContained (scan line cs)) :
    cs.getLast? = some '\n' := by
  obtain ⟨l, hlast, hk⟩ := h.ended
  obtain ⟨before, hscan⟩ := List.getLast?_eq_some_iff.1 hlast
  obtain ⟨c, rest, hcs, hl, hafter⟩ := scan_split hscan
  have hc : c = '\n' := by
    rw [hl] at hk
    exact cut_newline hk
  have hrest : rest = [] := by
    have htext := congrArg textOf hafter
    rw [textOf_scan, hc] at htext
    exact htext.symm
  rw [hcs, hc, hrest]
  simp

theorem SelfContained.not_unended {line : Nat} {c : Char} {cs : List Char}
    (h : SelfContained (scan line (c :: cs))) : ¬ Unended c cs := by
  intro hun
  obtain ⟨l, m, ls, hscan, hopens⟩ := hun.opens line
  rw [hscan] at h
  rcases hopens with hblock | hraw
  · exact (List.isChain_cons_cons.1 h.noBlock).1 hblock
  · exact (List.isChain_cons_cons.1 h.noRaw).1 hraw

theorem SelfContained.tail {l m : Lexeme} {ls : List Lexeme} (h : SelfContained (l :: m :: ls)) :
    SelfContained (m :: ls) :=
  ⟨h.ended, (List.isChain_cons_cons.1 h.noBlock).2, (List.isChain_cons_cons.1 h.noRaw).2⟩

/-- The lexemes of a source that is self-contained stay the same with more text behind, which is
read as if it stood alone. -/
theorem scan_append {line : Nat} {cs : List Char} (h : SelfContained (scan line cs))
    (more : List Char) :
    scan line (cs ++ more) = scan line cs ++ scan (line + cs.count '\n') more := by
  fun_induction scan line cs with
  | case1 line =>
    obtain ⟨l, hlast, -⟩ := h.ended
    cases hlast
  | case2 line c cs next ih =>
    have hscan : scan line (c :: cs) =
        ⟨next.kind, next.text, line % 4294967296⟩ ::
          scan (line + next.text.count '\n') next.rest := by
      rw [scan]
    have hcount : line + (c :: cs).count '\n' =
        line + next.text.count '\n' + next.rest.count '\n' := by
      rw [← cut_append c cs, List.count_append, Nat.add_assoc]
    rw [hcount, List.cons_append, scan, List.cons_append]
    cases hrest : scan (line + next.text.count '\n') next.rest with
    | nil =>
      -- The last lexeme: it is the newline, which takes no further text.
      have hc : c = '\n' := by
        obtain ⟨l, hlast, hk⟩ := h.ended
        rw [hrest] at hlast
        obtain rfl := Option.some.inj hlast
        exact cut_newline hk
      have hnil : next.rest = [] := by
        rw [← textOf_scan (line + next.text.count '\n') next.rest, hrest]
        rfl
      have hstep : cut c (cs ++ more) = ⟨next.kind, next.text, next.rest ++ more⟩ := by
        show cut c (cs ++ more) = ⟨(cut c cs).kind, (cut c cs).text, (cut c cs).rest ++ more⟩
        rw [hc]
        rfl
      rw [hstep, hnil]
      rfl
    | cons m ls =>
      have hself : SelfContained (scan line (c :: cs)) := by rwa [hscan]
      have htail : SelfContained (scan (line + next.text.count '\n') next.rest) := by
        rw [hrest] at h ⊢
        exact h.tail
      have hstep := cut_append_behind hself.not_unended htail.getLast? more
      rw [hstep, ← hrest, ← ih htail]

end CSymbols.Lexeme

namespace CSymbols.Remark

/-- The remark with its line counted from further above, in 32 bits. -/
def raised (n : Nat) (r : Remark) : Remark := { r with line := (r.line + n) % 4294967296 }

theorem commentsOf_append (ls ms : List Lexeme) :
    commentsOf (ls ++ ms) = commentsOf ls ++ commentsOf ms := by
  simp [commentsOf]

theorem commentsOf_raised (n : Nat) (ls : List Lexeme) :
    commentsOf (ls.map (Lexeme.raised n)) = (commentsOf ls).map (raised n) := by
  unfold commentsOf
  rw [List.filter_map, List.map_map, List.map_map]
  rfl

theorem directivesFrom_raised (n : Nat) (atStart : Bool) (ls : List Lexeme) :
    directivesFrom atStart (ls.map (Lexeme.raised n)) =
      (directivesFrom atStart ls).map (raised n) := by
  induction ls generalizing atStart with
  | nil => rfl
  | cons l ls ih =>
    rw [List.map_cons, directivesFrom_cons, directivesFrom_cons, List.map_append, ← ih]
    congr 1
    rw [apply_ite (List.map (raised n))]
    rfl

/-- Behind a newline lexeme, directives are listed as from the start of a source. -/
theorem directivesFrom_append_ended {ls : List Lexeme}
    (h : ∃ l ∈ ls.getLast?, l.kind = some .newline) (atStart : Bool) (ms : List Lexeme) :
    directivesFrom atStart (ls ++ ms) = directivesFrom atStart ls ++ directivesFrom true ms := by
  obtain ⟨l, hlast, hk⟩ := h
  obtain ⟨before, hls⟩ := List.getLast?_eq_some_iff.1 hlast
  have hflag : ls.foldl startsBehind atStart = true := by
    rw [hls, List.foldl_append]
    show startsBehind _ l = true
    rw [startsBehind, hk]
  rw [directivesFrom_append, hflag]

end CSymbols.Remark

namespace CSymbols.Lexeme

/-- A self-contained source in front of another one: its lexemes stay the same, and those of the
other one are the same further below. So are the comments and directives. Lines are raised modulo
2^32, as they are counted. -/
theorem lexemes_joined {a : String} (h : SelfContained (lexemes a)) (b : String) :
    lexemes (a ++ b) = lexemes a ++ (lexemes b).map (raised (a.toList.count '\n')) ∧
      Remark.comments (a ++ b) =
        Remark.comments a ++ (Remark.comments b).map (Remark.raised (a.toList.count '\n')) ∧
      Remark.directives (a ++ b) =
        Remark.directives a ++ (Remark.directives b).map (Remark.raised (a.toList.count '\n')) := by
  have hlexemes : lexemes (a ++ b) =
      lexemes a ++ (lexemes b).map (raised (a.toList.count '\n')) := by
    unfold lexemes
    rw [String.toList_append, scan_append h, scan_add]
  refine ⟨hlexemes, ?_, ?_⟩
  · unfold Remark.comments
    rw [hlexemes, Remark.commentsOf_append, Remark.commentsOf_raised]
  · unfold Remark.directives
    rw [hlexemes, Remark.directivesFrom_append_ended h.ended, Remark.directivesFrom_raised]

/-- A slash, a raw string of two lines, an unclosed literal and a directive that is continued, in
front of what might go on with any of them. -/
theorem lexemes_joined_folded :
    SelfContained (lexemes "/ R\"(\n)\"'\n#e \\\nf\n") ∧
    lexemes ("/ R\"(\n)\"'\n#e \\\nf\n" ++ "*/'\n#g\n//h") =
      lexemes "/ R\"(\n)\"'\n#e \\\nf\n" ++
        [⟨some .punctuation, "*".toList, 5⟩, ⟨some .punctuation, "/".toList, 5⟩,
          ⟨none, "'".toList, 5⟩, ⟨some .newline, "\n".toList, 5⟩,
          ⟨some .directive, "#g".toList, 6⟩, ⟨some .newline, "\n".toList, 6⟩,
          ⟨some .lineComment, "//h".toList, 7⟩] ∧
    Remark.directives ("/ R\"(\n)\"'\n#e \\\nf\n" ++ "*/'\n#g\n//h") =
      [⟨"#e \\\nf", 3⟩, ⟨"#g", 6⟩] := by
  have hself : SelfContained (lexemes "/ R\"(\n)\"'\n#e \\\nf\n") :=
    ⟨by decide +kernel, by decide +kernel, by decide +kernel⟩
  obtain ⟨hlexemes, -, hdirectives⟩ := lexemes_joined hself "*/'\n#g\n//h"
  refine ⟨hself, ?_, ?_⟩
  · rw [hlexemes]
    decide +kernel
  · rw [hdirectives]
    decide +kernel

end CSymbols.Lexeme

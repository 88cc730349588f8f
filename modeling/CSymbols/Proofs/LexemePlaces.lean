import CSymbols.Remark
import Mathlib.Data.List.Basic

/-! Where lexemes stand: they cover the source from its first character to its last, and each has
the line on which it begins. Remarks are read off the source at their places. -/
namespace CSymbols.Lexeme

/-- The text that lexemes cover. -/
def textOf (ls : List Lexeme) : List Char := ls.flatMap Lexeme.text

@[simp] theorem textOf_nil : textOf [] = [] := rfl

@[simp] theorem textOf_cons (l : Lexeme) (ls : List Lexeme) :
    textOf (l :: ls) = l.text ++ textOf ls := rfl

theorem textOf_append (ls ms : List Lexeme) : textOf (ls ++ ms) = textOf ls ++ textOf ms :=
  List.flatMap_append

/-- The line of the character at an offset, counted from one. -/
def lineAt (source : List Char) (offset : Nat) : Nat := 1 + (source.take offset).count '\n'

/-- The lexemes with the offsets at which they begin. -/
def placed (offset : Nat) : List Lexeme → List (Nat × Lexeme)
  | [] => []
  | l :: ls => (offset, l) :: placed (offset + l.text.length) ls

/-- A run of the scanner, opened at one of its lexemes. -/
theorem scan_split {line : Nat} {cs : List Char} {before after : List Lexeme} {l : Lexeme}
    (h : scan line cs = before ++ l :: after) :
    ∃ c rest, cs = textOf before ++ c :: rest ∧
      l = ⟨(cut c rest).kind, (cut c rest).text,
        (line + (textOf before).count '\n') % 4294967296⟩ ∧
      after = scan (line + (textOf (before ++ [l])).count '\n') (cut c rest).rest := by
  induction before generalizing line cs with
  | nil =>
    cases cs with
    | nil => simp [scan] at h
    | cons c cs =>
      rw [scan] at h
      obtain ⟨rfl, rfl⟩ := List.cons.inj h
      refine ⟨c, cs, rfl, rfl, ?_⟩
      simp
  | cons m before ih =>
    cases cs with
    | nil => simp [scan] at h
    | cons c cs =>
      rw [scan] at h
      obtain ⟨rfl, h'⟩ := List.cons.inj h
      obtain ⟨d, rest, hcs, hl, ha⟩ := ih h'
      refine ⟨d, rest, ?_, ?_, ?_⟩
      · rw [← cut_append c cs, hcs, textOf_cons, List.append_assoc]
      · rw [hl, textOf_cons, List.count_append, Nat.add_assoc]
      · rw [ha, List.cons_append, textOf_cons, List.count_append, Nat.add_assoc]

theorem textOf_scan (line : Nat) (cs : List Char) : textOf (scan line cs) = cs := by
  fun_induction scan line cs with
  | case1 => rfl
  | case2 line c cs next ih => rw [textOf_cons, ih, cut_append]

/-- What a run has behind some of its lexemes is a run over the text behind them. -/
theorem scan_behind {line : Nat} {cs : List Char} {before behind : List Lexeme}
    (h : scan line cs = before ++ behind) :
    behind = scan (line + (textOf before).count '\n') (textOf behind) := by
  cases behind with
  | nil => simp [scan]
  | cons l after =>
    obtain ⟨c, rest, -, hl, hafter⟩ := scan_split h
    have htext : textOf (l :: after) = c :: rest := by
      rw [textOf_cons, hafter, textOf_scan, hl, cut_append]
    rw [htext, scan, hafter, hl, textOf_append, List.count_append, ← Nat.add_assoc]
    simp

/-- The lexemes behind a place are the scan of the text behind it. -/
theorem lexemes_behind {source : String} {before behind : List Lexeme} {text : List Char}
    (h : lexemes source = before ++ behind) (htext : source.toList = textOf before ++ text) :
    behind = scan (1 + (textOf before).count '\n') text := by
  have hbehind : textOf before ++ textOf behind = textOf before ++ text := by
    rw [← textOf_append, ← h, ← htext]
    exact textOf_scan 1 source.toList
  rw [← List.append_cancel_left hbehind]
  exact scan_behind h

theorem scan_text_ne_nil {line : Nat} {cs : List Char} {l : Lexeme} (h : l ∈ scan line cs) :
    l.text ≠ [] := by
  obtain ⟨before, after, hs⟩ := List.append_of_mem h
  obtain ⟨c, rest, -, rfl, -⟩ := scan_split hs
  exact cut_text_ne_nil c rest

theorem length_le_length_textOf {ls : List Lexeme} (h : ∀ l ∈ ls, l.text ≠ []) :
    ls.length ≤ (textOf ls).length := by
  induction ls with
  | nil => simp
  | cons l ls ih =>
    have hl := List.length_pos_iff.2 (h l List.mem_cons_self)
    have := ih fun m hm => h m (List.mem_cons_of_mem l hm)
    simp only [List.length_cons, textOf_cons, List.length_append]
    omega

theorem le_of_mem_placed {offset : Nat} {ls : List Lexeme} {p : Nat × Lexeme}
    (h : p ∈ placed offset ls) : offset ≤ p.1 := by
  induction ls generalizing offset with
  | nil => simp [placed] at h
  | cons l ls ih =>
    rcases List.mem_cons.1 h with rfl | h
    · exact Nat.le_refl _
    · have := ih h
      omega

/-- A lexeme ends where the next one begins, or before. -/
theorem placed_pairwise (offset : Nat) (ls : List Lexeme) :
    (placed offset ls).Pairwise fun p q => p.1 + p.2.text.length ≤ q.1 := by
  induction ls generalizing offset with
  | nil => exact .nil
  | cons l ls ih => exact .cons (fun q hq => le_of_mem_placed hq) (ih _)

theorem mem_placed_split {offset : Nat} {ls : List Lexeme} {p : Nat × Lexeme}
    (h : p ∈ placed offset ls) :
    ∃ before after, ls = before ++ p.2 :: after ∧ p.1 = offset + (textOf before).length := by
  induction ls generalizing offset with
  | nil => simp [placed] at h
  | cons l ls ih =>
    rcases List.mem_cons.1 h with rfl | h
    · exact ⟨[], ls, rfl, rfl⟩
    · obtain ⟨before, after, rfl, hp⟩ := ih h
      refine ⟨l :: before, after, rfl, ?_⟩
      rw [hp, textOf_cons, List.length_append, Nat.add_assoc]

/-- What a lexeme at an offset is: a piece of the source that is not empty, with the line of its
first character. -/
structure StandsAt (source : List Char) (offset : Nat) (l : Lexeme) : Prop where
  ne_nil : l.text ≠ []
  text_eq : l.text = (source.take (offset + l.text.length)).drop offset
  line_eq : l.line = lineAt source offset
  le_length : offset + l.text.length ≤ source.length

/-- Counting lines in 32 bits is enough for a source with fewer than 2^32 - 1 newlines. -/
theorem standsAt_of_mem_placed {source : String} (hn : source.toList.count '\n' < 4294967295)
    {p : Nat × Lexeme} (h : p ∈ placed 0 (lexemes source)) : StandsAt source.toList p.1 p.2 := by
  obtain ⟨before, after, hs, hp⟩ := mem_placed_split h
  obtain ⟨c, rest, hcs, hl, -⟩ := scan_split hs
  have hsource : source.toList = textOf before ++ (p.2.text ++ (cut c rest).rest) := by
    rw [hcs, ← cut_append c rest, hl]
  rw [Nat.zero_add] at hp
  refine ⟨?_, ?_, ?_, ?_⟩
  · rw [hl]
    exact cut_text_ne_nil c rest
  · rw [hsource, hp, ← List.append_assoc, ← List.length_append, List.take_left', List.drop_left']
    · rfl
    · rfl
  · have hline : p.2.line = (1 + (textOf before).count '\n') % 4294967296 := by rw [hl]
    have hcount : (textOf before).count '\n' ≤ source.toList.count '\n' := by
      rw [hsource, List.count_append]
      omega
    rw [hline, Nat.mod_eq_of_lt (by omega), hsource, hp, lineAt, List.take_left']
    rfl
  · rw [hsource, hp]
    simp only [List.length_append]
    omega

theorem line_lt_of_mem_placed {source : String} (hn : source.toList.count '\n' < 4294967295)
    {p : Nat × Lexeme} (h : p ∈ placed 0 (lexemes source)) :
    p.2.line + p.2.text.count '\n' < 4294967296 := by
  obtain ⟨before, after, hs, -⟩ := mem_placed_split h
  obtain ⟨c, rest, hcs, hl, -⟩ := scan_split hs
  have hcount : source.toList.count '\n' =
      (textOf before).count '\n' + (p.2.text.count '\n' + (cut c rest).rest.count '\n') := by
    rw [hcs, ← cut_append c rest, hl, List.count_append, List.count_append]
  have hline : p.2.line = (1 + (textOf before).count '\n') % 4294967296 := by rw [hl]
  omega

end CSymbols.Lexeme

namespace CSymbols.Remark
open CSymbols.Lexeme

/-- Remarks that are read off stretches of a source, each behind the one before, with the lines on
which these begin. -/
def ReadOff (source : List Char) (trim : List Char → List Char) (remarks : List Remark) : Prop :=
  ∃ spans : List (Nat × Nat), spans.Pairwise (fun s t => s.2 ≤ t.1) ∧
    (∀ s ∈ spans, s.1 < s.2 ∧ s.2 ≤ source.length) ∧
    remarks = spans.map fun s =>
      ⟨String.ofList (trim ((source.take s.2).drop s.1)), lineAt source s.1⟩

/-- The remark that a lexeme makes. -/
def ofPlaced (trim : List Char → List Char) (p : Nat × Lexeme) : Remark :=
  ⟨String.ofList (trim p.2.text), p.2.line⟩

theorem readOff_of_sublist {source : String} (hn : source.toList.count '\n' < 4294967295)
    {ps : List (Nat × Lexeme)} (h : ps.Sublist (placed 0 (lexemes source)))
    (trim : List Char → List Char) :
    ReadOff source.toList trim (ps.map (ofPlaced trim)) := by
  have hp : ∀ p ∈ ps, StandsAt source.toList p.1 p.2 := fun p hp =>
    standsAt_of_mem_placed hn (h.subset hp)
  refine ⟨ps.map fun p => (p.1, p.1 + p.2.text.length), ?_, ?_, ?_⟩
  · exact List.pairwise_map.2 ((placed_pairwise 0 _).sublist h)
  · intro s hs
    obtain ⟨p, hmem, rfl⟩ := List.mem_map.1 hs
    have hpos := List.length_pos_iff.2 (hp p hmem).ne_nil
    exact ⟨by simpa using hpos, (hp p hmem).le_length⟩
  · rw [List.map_map]
    refine List.map_congr_left fun p hmem => ?_
    simp only [ofPlaced, Function.comp_apply, ← (hp p hmem).text_eq, ← (hp p hmem).line_eq]

theorem commentsOf_placed (offset : Nat) (ls : List Lexeme) :
    commentsOf ls =
      ((placed offset ls).filter fun p => p.2.kind.any Kind.isComment).map (ofPlaced id) := by
  induction ls generalizing offset with
  | nil => rfl
  | cons l ls ih =>
    have ih := ih (offset + l.text.length)
    unfold commentsOf at ih ⊢
    rw [placed, List.filter_cons, List.filter_cons]
    split_ifs
    · rw [List.map_cons, List.map_cons, ih, ofPlaced, id_eq]
    · exact ih

/-- What is listed is some of the directives. -/
theorem directivesFrom_sublist (offset : Nat) (atStart : Bool) (ls : List Lexeme) :
    ∃ ps : List (Nat × Lexeme), ps.Sublist (placed offset ls) ∧
      (∀ p ∈ ps, p.2.kind = some .directive) ∧
      directivesFrom atStart ls = ps.map (ofPlaced Text.trimEnd) := by
  induction ls generalizing offset atStart with
  | nil => exact ⟨[], .slnil, by simp, rfl⟩
  | cons l ls ih =>
    -- A lexeme that is not listed leaves the directives behind it, whatever comes next of the line.
    have hskip : ∀ atStart, ∃ ps : List (Nat × Lexeme), ps.Sublist (placed offset (l :: ls)) ∧
        (∀ p ∈ ps, p.2.kind = some .directive) ∧
        directivesFrom atStart ls = ps.map (ofPlaced Text.trimEnd) := by
      intro atStart
      obtain ⟨ps, hps, hk, he⟩ := ih (offset + l.text.length) atStart
      exact ⟨ps, hps.cons _, hk, he⟩
    unfold directivesFrom
    split
    · exact hskip true
    · exact hskip atStart
    · exact hskip atStart
    · next hl =>
      split_ifs
      · obtain ⟨ps, hps, hk, he⟩ := ih (offset + l.text.length) false
        refine ⟨(offset, l) :: ps, hps.cons_cons _, ?_, by rw [List.map_cons, he, ofPlaced]⟩
        exact List.forall_mem_cons.2 ⟨hl, hk⟩
      · exact hskip false
    · exact hskip false

theorem directivesFrom_placed (offset : Nat) (atStart : Bool) (ls : List Lexeme) :
    ∃ ps : List (Nat × Lexeme), ps.Sublist (placed offset ls) ∧
      directivesFrom atStart ls = ps.map (ofPlaced Text.trimEnd) := by
  obtain ⟨ps, hps, -, he⟩ := directivesFrom_sublist offset atStart ls
  exact ⟨ps, hps, he⟩

end CSymbols.Remark

namespace CSymbols.Lexeme

/-- The lexemes of a source cover it, and its remarks are read off it. -/
structure Covers (source : String) : Prop where
  text_eq : textOf (lexemes source) = source.toList
  length_le : (lexemes source).length ≤ source.toList.length
  standsAt : ∀ p ∈ placed 0 (lexemes source), StandsAt source.toList p.1 p.2
  line_lt : ∀ p ∈ placed 0 (lexemes source), p.2.line + p.2.text.count '\n' < 4294967296
  comments : Remark.ReadOff source.toList id (Remark.comments source)
  directives : Remark.ReadOff source.toList Text.trimEnd (Remark.directives source)

theorem lexemes_cover (source : String) (hn : source.toList.count '\n' < 4294967295) :
    Covers source where
  text_eq := textOf_scan 1 source.toList
  length_le := by
    have h := length_le_length_textOf fun l (hl : l ∈ lexemes source) => scan_text_ne_nil hl
    rwa [lexemes, textOf_scan] at h
  standsAt _ hp := standsAt_of_mem_placed hn hp
  line_lt _ hp := line_lt_of_mem_placed hn hp
  comments := by
    rw [Remark.comments, Remark.commentsOf_placed 0]
    exact Remark.readOff_of_sublist hn List.filter_sublist id
  directives := by
    obtain ⟨ps, hps, he⟩ := Remark.directivesFrom_placed 0 true (lexemes source)
    rw [Remark.directives, he]
    exact Remark.readOff_of_sublist hn hps Text.trimEnd

/-- A comment with a newline in it, an unclosed literal with an escaped one, and a directive that
goes on behind a backslash. -/
def foldedSource : String := "/* a\n */ \"b\\\nc\n # d \\\r\n e \n"

theorem lexemes_cover_foldedSource :
    foldedSource.toList.count '\n' < 4294967295 ∧ Covers foldedSource ∧
      Remark.comments foldedSource = [⟨"/* a\n */", 1⟩] ∧
      Remark.directives foldedSource = [⟨"# d \\\r\n e", 4⟩] :=
  ⟨by decide +kernel, lexemes_cover foldedSource (by decide +kernel), by decide +kernel,
    by decide +kernel⟩

end CSymbols.Lexeme

import CSymbols.Proofs.Terminators

/-! How far line comments and directives reach. A newline behind a backslash continues a line. The
scanner passes over a backslash together with the character behind it, so that it follows only those
backslashes that are not escaped themselves, and leaves over one that has nothing to escape. -/
namespace CSymbols.Lexeme

/-- The line at the front of a text. Of the text in front of a newline, `goesOn` tells whether the
line goes on behind it. -/
structure IsLine (goesOn : List Char → Prop) (text line : List Char) : Prop where
  inside : BeforeEach '\n' goesOn line
  stops : line = text ∨ (∃ v, text = line ++ '\n' :: v) ∧ ¬ goesOn line

/-- A newline behind the text stands directly behind a backslash, or behind a backslash and a
carriage return. -/
def Continued (w : List Char) : Prop := ['\\'] <:+ w ∨ ['\\', '\r'] <:+ w

instance (w : List Char) : Decidable (Continued w) := inferInstanceAs (Decidable (_ ∨ _))

/-- The same of a backslash that is not escaped. -/
def Folded (w : List Char) : Prop := Escapes w ∨ ['\r'] <:+ w ∧ Escapes w.dropLast

instance (w : List Char) : Decidable (Folded w) := inferInstanceAs (Decidable (_ ∨ _))

/-- What is taken of a line: all of it, but for an unescaped backslash that ends the text. -/
def taken (text line : List Char) : List Char :=
  if line = text ∧ Escapes text then text.dropLast else line

section IsLine

variable {goesOn goesOn' : List Char → Prop} {text line line' : List Char}

theorem IsLine.isPrefix (h : IsLine goesOn text line) : line <+: text := by
  rcases h.stops with htext | ⟨⟨v, hv⟩, -⟩
  · rw [htext]
  · exact ⟨_, hv.symm⟩

/-- Where a line goes on less often, it is not longer. -/
theorem IsLine.length_le (hg : ∀ u, goesOn u → goesOn' u) (h : IsLine goesOn text line)
    (h' : IsLine goesOn' text line') : line.length ≤ line'.length := by
  rcases h'.stops with htext | ⟨⟨v, hv⟩, hstop⟩
  · rw [htext]
    exact h.isPrefix.length_le
  · by_contra hlt
    have hfront : line' ++ ['\n'] <+: text := ⟨v, by rw [hv, List.append_assoc]; rfl⟩
    have hover : line' ++ ['\n'] <+: line := by
      apply List.prefix_of_prefix_length_le hfront h.isPrefix
      simp only [List.length_append, List.length_singleton]
      omega
    obtain ⟨s, hs⟩ := hover
    have hinside : line = line' ++ '\n' :: s := by rw [← hs, List.append_assoc]; rfl
    exact hstop (hg line' (h.inside line' s hinside))

theorem IsLine.unique (h : IsLine goesOn text line) (h' : IsLine goesOn text line') :
    line = line' := by
  have hle := h.length_le (fun _ hu => hu) h'
  have hge := h'.length_le (fun _ hu => hu) h
  exact (List.prefix_of_prefix_length_le h.isPrefix h'.isPrefix hle).eq_of_length (by omega)

/-- The beginning of a line, with all the newlines in it that do not end it. -/
theorem IsLine.append {w : List Char} (hw : BeforeEach '\n' goesOn w)
    (h : IsLine (fun u => goesOn (w ++ u)) text line) : IsLine goesOn (w ++ text) (w ++ line) := by
  refine ⟨beforeEach_append.2 ⟨hw, h.inside⟩, ?_⟩
  rcases h.stops with htext | ⟨⟨v, hv⟩, hstop⟩
  · exact .inl (by rw [htext])
  · exact .inr ⟨⟨v, by rw [hv, List.append_assoc]⟩, hstop⟩

theorem IsLine.congr (hg : ∀ u v, text = u ++ '\n' :: v → (goesOn u ↔ goesOn' u))
    (h : IsLine goesOn text line) : IsLine goesOn' text line := by
  refine ⟨?_, ?_⟩
  · intro u v hu
    obtain ⟨s, hs⟩ := h.isPrefix
    exact (hg u (v ++ s) (by rw [← hs, hu]; simp)).1 (h.inside u v hu)
  · rcases h.stops with htext | ⟨⟨v, hv⟩, hstop⟩
    · exact .inl htext
    · exact .inr ⟨⟨v, hv⟩, fun hgo => hstop ((hg line v hv).2 hgo)⟩

theorem exists_isLine (goesOn : List Char → Prop) (text : List Char) :
    ∃ line, IsLine goesOn text line := by
  induction text generalizing goesOn with
  | nil => exact ⟨[], beforeEach_nil _ _, .inl rfl⟩
  | cons c cs ih =>
    by_cases hc : c = '\n' ∧ ¬ goesOn []
    · exact ⟨[], beforeEach_nil _ _, .inr ⟨⟨cs, by rw [hc.1]; rfl⟩, hc.2⟩⟩
    · obtain ⟨line, hline⟩ := ih fun u => goesOn ([c] ++ u)
      refine ⟨[c] ++ line, hline.append (beforeEach_cons.2 ⟨?_, beforeEach_nil _ _⟩)⟩
      intro hn
      by_contra hstop
      exact hc ⟨hn, hstop⟩

end IsLine

theorem continued_of_folded {w : List Char} (h : Folded w) : Continued w := by
  rcases h with h | ⟨⟨u, hu⟩, h⟩
  · exact .inl (suffix_of_escapes h)
  · rw [← hu, List.dropLast_concat] at h
    obtain ⟨s, hs⟩ := suffix_of_escapes h
    exact .inr ⟨s, by rw [← hu, ← hs]; simp⟩

/-- Behind a text that escapes nothing, all is as if the text were not there. -/
theorem folded_append {w u : List Char} (hw : ¬ Escapes w) (h : u ≠ [] ∨ ¬ Folded w) :
    Folded (w ++ u) ↔ Folded u := by
  rcases List.eq_nil_or_concat u with hu | ⟨s, c, hu⟩
  · have hnot : ¬ Folded w := h.resolve_left fun hne => hne hu
    rw [hu, List.append_nil]
    exact iff_of_false hnot (by decide)
  · have hlast : ∀ t : List Char, ['\r'] <:+ t ++ [c] ↔ c = '\r' := by
      intro t
      constructor
      · intro ⟨r, hr⟩
        have hsame := (List.append_inj' hr rfl).2
        exact (List.cons.inj hsame).1.symm
      · intro hc
        exact ⟨t, by rw [hc]⟩
    rw [hu, List.concat_eq_append]
    unfold Folded
    rw [escapes_append hw, ← List.append_assoc, hlast, hlast, List.dropLast_concat,
      List.dropLast_concat, escapes_append hw]

theorem taken_append {w : List Char} (hw : ¬ Escapes w) (text line : List Char) :
    taken (w ++ text) (w ++ line) = w ++ taken text line := by
  unfold taken
  simp only [List.append_cancel_left_eq, escapes_append hw]
  split_ifs with h
  · have hne : text ≠ [] := by
      intro hnil
      rw [hnil] at h
      exact absurd h.2 (by decide)
    exact List.dropLast_append_of_ne_nil hne
  · rfl

/-- The scanner takes the line that ends at the first newline behind no backslash, or behind an
escaped one. -/
def TakesLine (text w : List Char) : Prop := ∃ line, IsLine Folded text line ∧ w = taken text line

/-- Characters in front of a line, of which the last does not escape the next. -/
theorem TakesLine.append {w text v : List Char} (hw : ¬ Escapes w)
    (hinside : BeforeEach '\n' Folded w) (hseam : text.head? = some '\n' → ¬ Folded w)
    (h : TakesLine text v) : TakesLine (w ++ text) (w ++ v) := by
  obtain ⟨line, hline, hv⟩ := h
  refine ⟨w ++ line, IsLine.append hinside (hline.congr ?_), by rw [taken_append hw, hv]⟩
  intro u t ht
  refine (folded_append hw ?_).symm
  cases u with
  | nil => exact .inr (hseam (by rw [ht]; rfl))
  | cons c u => exact .inl (by simp)

theorem restOfLine_takesLine (cs : List Char) : TakesLine cs (restOfLine cs).1 := by
  fun_induction restOfLine cs with
  | case1 => exact ⟨[], ⟨beforeEach_nil _ _, .inl rfl⟩, by decide⟩
  | case2 cs ih =>
    refine ih.append (w := ['\\', '\r', '\n']) (by decide) ?_ fun _ => by decide
    simp only [beforeEach_cons, beforeEach_nil, and_true]
    decide
  | case3 c cs hcr ih =>
    have hescapes : ¬ Escapes ['\\', c] := fun h => not_escapes_nil ((escapes_pair c []).1 h)
    refine ih.append hescapes ?_ ?_
    · simp only [beforeEach_cons, beforeEach_nil, and_true]
      exact ⟨by decide, fun _ => by decide⟩
    · -- Only a carriage return in front of the newline would continue the line.
      intro hnewline hfolded
      obtain ⟨rest, hrest⟩ := List.head?_eq_some_iff.1 hnewline
      rcases hfolded with h | ⟨h, -⟩
      · exact hescapes h
      · have hc : c = '\r' := by simpa [List.suffix_cons_iff, eq_comm] using h
        exact hcr rest hc hrest
  | case4 => exact ⟨['\\'], ⟨by simp [beforeEach_cons, beforeEach_nil], .inl rfl⟩, by decide⟩
  | case5 c cs _ hc hend hn =>
    have hnewline : c = '\n' := by simpa using hn
    rw [hnewline]
    exact ⟨[], ⟨beforeEach_nil _ _, .inr ⟨⟨cs, rfl⟩, by decide⟩⟩, by simp [taken]⟩
  | case6 c cs _ hc hend hn ih =>
    have hb := ne_backslash hc hend
    have hescapes : ¬ Escapes [c] := fun h => not_escapes_nil ((escapes_cons hb []).1 h)
    refine ih.append (w := [c]) hescapes ?_ ?_
    · simp only [beforeEach_cons, beforeEach_nil, and_true]
      exact fun hnewline => absurd hnewline (by simpa using hn)
    · rintro - (h | ⟨-, h⟩)
      · exact hescapes h
      · exact not_escapes_nil h

/-- A lexeme that takes the rest of a line is its mark and the rest of the line. -/
theorem cut_line {c : Char} {cs : List Char}
    (h : (cut c cs).kind = some .lineComment ∨ (cut c cs).kind = some .directive) :
    ∃ mark rest, (mark = ['/', '/'] ∨ mark = ['#']) ∧ c :: cs = mark ++ rest ∧
      (cut c cs).text = mark ++ (restOfLine rest).1 := by
  obtain ⟨d, w, hw⟩ := List.exists_cons_of_ne_nil (cut_text_ne_nil c cs)
  rcases h with h | h
  · have hwins := cut_wins h
    have hfront := hwins.front
    have hmem := hwins.mem
    rw [hw] at hfront hmem
    obtain ⟨hd, v, hv, -⟩ := cons_mem_pattern.1 hmem
    rw [hd, hv] at hfront
    obtain ⟨rest, hrest⟩ := hfront
    obtain ⟨hc, hcs⟩ := List.cons.inj hrest
    refine ⟨['/', '/'], v ++ rest, .inl rfl, hrest.symm, ?_⟩
    rw [← hc, ← hcs]
    rfl
  · have hwins := cut_wins h
    have hfront := hwins.front
    have hmem := hwins.mem
    rw [hw] at hfront hmem
    have hd := (cons_mem_pattern.1 hmem).1
    have hc : c = '#' := by rw [← (List.cons_prefix_cons.1 hfront).1, hd]
    refine ⟨['#'], cs, .inr rfl, by rw [hc]; rfl, ?_⟩
    rw [hc]
    rfl

theorem cut_takesLine {c : Char} {cs : List Char}
    (h : (cut c cs).kind = some .lineComment ∨ (cut c cs).kind = some .directive) :
    TakesLine (c :: cs) (cut c cs).text := by
  obtain ⟨mark, rest, hmark, htext, hcut⟩ := cut_line h
  have hplain : ¬ Escapes mark ∧ ¬ Folded mark ∧ '\n' ∉ mark := by
    rcases hmark with hmark | hmark <;> rw [hmark] <;> decide
  rw [htext, hcut]
  refine (restOfLine_takesLine rest).append hplain.1 ?_ fun _ => hplain.2.1
  intro u v huv
  exact absurd (by rw [huv]; simp) hplain.2.2

/-- The line that goes on behind every newline with a backslash in front is taken just if none of
these backslashes is escaped, and if the text does not end in one that is not. -/
theorem TakesLine.eq_iff {text w line : List Char} (h : TakesLine text w)
    (hline : IsLine Continued text line) :
    w = line ↔ BeforeEach '\n' Folded line ∧ ¬ (line = text ∧ Escapes text) := by
  obtain ⟨folded, hfolded, hw⟩ := h
  have hsame : BeforeEach '\n' Folded line → folded = line := by
    intro hinside
    refine hfolded.unique ⟨hinside, ?_⟩
    rcases hline.stops with htext | ⟨hv, hstop⟩
    · exact .inl htext
    · exact .inr ⟨hv, fun hgo => hstop (continued_of_folded hgo)⟩
  unfold taken at hw
  split_ifs at hw with hlone
  · -- All newlines of the text continue the line, so it is the whole text.
    have htext : line = text := by
      refine hline.unique ⟨?_, .inl rfl⟩
      rw [← hlone.1]
      exact fun u v huv => continued_of_folded (hfolded.inside u v huv)
    have hne : text ≠ [] := by
      intro hnil
      rw [hnil] at hlone
      exact not_escapes_nil hlone.2
    have hlength : text.dropLast.length < text.length := by
      rw [List.length_dropLast]
      have := List.length_pos_iff.2 hne
      omega
    constructor
    · intro hwline
      rw [← hw, hwline, htext] at hlength
      omega
    · intro ⟨_, hnot⟩
      exact absurd ⟨htext, hlone.2⟩ hnot
  · rw [hw]
    constructor
    · intro hfl
      rw [← hfl]
      exact ⟨hfolded.inside, hlone⟩
    · intro ⟨hinside, _⟩
      exact hsame hinside

/-- A line comment or directive is the line that unescaped backslashes continue, without one at the
end of the source. It is the line that all backslashes continue just if none of them is escaped. -/
theorem lexemes_takeLine {source : String} {before after : List Lexeme} {l : Lexeme}
    (h : lexemes source = before ++ l :: after)
    (hk : l.kind = some .lineComment ∨ l.kind = some .directive) :
    ∃ text folded line, source.toList = textOf before ++ text ∧
      IsLine Folded text folded ∧ l.text = taken text folded ∧
      IsLine Continued text line ∧
      (l.text = line ↔ BeforeEach '\n' Folded line ∧ ¬ (line = text ∧ Escapes text)) := by
  obtain ⟨c, rest, hsource, hl, -⟩ := scan_split h
  have htakes : TakesLine (c :: rest) l.text := by
    rw [hl] at hk ⊢
    exact cut_takesLine hk
  obtain ⟨line, hline⟩ := exists_isLine Continued (c :: rest)
  have hiff := htakes.eq_iff hline
  obtain ⟨folded, hfolded, htext⟩ := htakes
  exact ⟨c :: rest, folded, line, hsource, hfolded, htext, hline, hiff⟩

/-- A directive that goes on behind a carriage return and ends behind an escaped backslash. -/
theorem lexemes_takeLine_returned :
    lexemes "x #d \\\r\n\\\\\ny" =
      [⟨some .identifier, "x".toList, 1⟩, ⟨some .whitespace, " ".toList, 1⟩] ++
        ⟨some .directive, "#d \\\r\n\\\\".toList, 1⟩ ::
          [⟨some .newline, "\n".toList, 2⟩, ⟨some .identifier, "y".toList, 3⟩] ∧
    ∃ text folded line, "x #d \\\r\n\\\\\ny".toList = "x ".toList ++ text ∧
      IsLine Folded text folded ∧ "#d \\\r\n\\\\".toList = taken text folded ∧
      IsLine Continued text line ∧
      ("#d \\\r\n\\\\".toList = line ↔
        BeforeEach '\n' Folded line ∧ ¬ (line = text ∧ Escapes text)) := by
  have h : lexemes "x #d \\\r\n\\\\\ny" =
      [⟨some .identifier, "x".toList, 1⟩, ⟨some .whitespace, " ".toList, 1⟩] ++
        ⟨some .directive, "#d \\\r\n\\\\".toList, 1⟩ ::
          [⟨some .newline, "\n".toList, 2⟩, ⟨some .identifier, "y".toList, 3⟩] := by
    decide +kernel
  exact ⟨h, lexemes_takeLine h (.inr rfl)⟩

/-- The second of two backslashes does not continue a comment, and one at the end of the source is
left over. -/
theorem lexemes_escaped_continuation :
    lexemes "// a\\\\\nb" =
      [⟨some .lineComment, "// a\\\\".toList, 1⟩, ⟨some .newline, "\n".toList, 1⟩,
        ⟨some .identifier, "b".toList, 2⟩] ∧
    IsLine Continued "// a\\\\\nb".toList "// a\\\\\nb".toList ∧
    lexemes "// a\\" =
      [⟨some .lineComment, "// a".toList, 1⟩, ⟨some .punctuation, "\\".toList, 1⟩] ∧
    IsLine Continued "// a\\".toList "// a\\".toList := by
  refine ⟨by decide +kernel, ⟨?_, .inl rfl⟩, by decide +kernel, ⟨?_, .inl rfl⟩⟩
  · decide +kernel
  · decide +kernel

end CSymbols.Lexeme

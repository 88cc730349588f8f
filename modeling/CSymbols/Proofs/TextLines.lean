import CSymbols.Text.Lines
import Mathlib.Data.List.Basic

/-! Texts that are lines joined by newlines. -/
namespace CSymbols.Text

theorem newlinePieces_eq_splitOn (cs : List Char) : newlinePieces cs = cs.splitOn '\n' := by
  induction cs with
  | nil => rfl
  | cons c cs ih =>
    have hne : cs.splitOn '\n' ≠ [] := List.splitOn_ne_nil '\n' cs
    rw [newlinePieces, ih, List.splitOn_cons_eq_if_modifyHead]
    cases hs : cs.splitOn '\n' with
    | nil => exact absurd hs hne
    | cons piece pieces => rfl

theorem newline_not_mem_of_mem_newlinePieces {cs line : List Char}
    (h : line ∈ newlinePieces cs) : '\n' ∉ line := by
  induction cs generalizing line with
  | nil =>
    rw [newlinePieces, List.mem_singleton] at h
    simp [h]
  | cons c cs ih =>
    rw [newlinePieces] at h
    split at h
    · rcases List.mem_cons.1 h with h | h
      · simp [h]
      · exact ih h
    · next hc =>
      have hc' : '\n' ≠ c := fun he => hc (by simp [← he])
      split at h
      · rw [List.mem_singleton] at h
        simp [h, hc']
      · next piece pieces hp =>
        rcases List.mem_cons.1 h with h | h
        · have hpiece : '\n' ∉ piece := ih (by simp [hp])
          simp [h, hc', hpiece]
        · exact ih (by simp [hp, h])

theorem dropReturn_subset (line : List Char) : dropReturn line ⊆ line := by
  unfold dropReturn
  split
  · exact List.dropLast_subset line
  · exact List.Subset.refl line

theorem exists_piece_of_mem_endedLines {pieces : List (List Char)} {line : List Char}
    (h : line ∈ endedLines pieces) : ∃ piece ∈ pieces, line ⊆ piece := by
  fun_induction endedLines pieces with
  | case1 => simp at h
  | case2 => simp at h
  | case3 last =>
    rw [List.mem_singleton] at h
    exact ⟨last, List.mem_singleton_self last, h ▸ List.Subset.refl line⟩
  | case4 piece pieces _ ih =>
    rcases List.mem_cons.1 h with h | h
    · exact ⟨piece, List.mem_cons_self, h ▸ dropReturn_subset piece⟩
    · obtain ⟨piece', hp, hline⟩ := ih h
      exact ⟨piece', List.mem_cons_of_mem piece hp, hline⟩

/-- No line holds the newline that ends it. -/
theorem newline_not_mem_of_mem_lines {cs line : List Char} (h : line ∈ lines cs) :
    '\n' ∉ line := by
  intro hn
  obtain ⟨piece, hp, hline⟩ := exists_piece_of_mem_endedLines h
  exact newline_not_mem_of_mem_newlinePieces hp (hline hn)

theorem lines_intercalate {ls : List (List Char)} (h : ∀ line ∈ ls, '\n' ∉ line) :
    lines (['\n'].intercalate ls) = endedLines ls := by
  by_cases hne : ls = []
  · subst hne
    rfl
  · have hsplit : newlinePieces (['\n'].intercalate ls) = ls := by
      rw [newlinePieces_eq_splitOn]
      exact List.splitOn_intercalate '\n' h hne
    rw [lines, hsplit]

/-- What is read of lines, if a carriage return at the end of one makes no difference and an empty
line says nothing. -/
theorem filterMap_endedLines {α : Type} {read? : List Char → Option α} (hempty : read? [] = none)
    {ls : List (List Char)} (h : ∀ line ∈ ls, read? (dropReturn line) = read? line) :
    (endedLines ls).filterMap read? = ls.filterMap read? := by
  fun_induction endedLines ls with
  | case1 => rfl
  | case2 last hlast =>
    have hnil : last = [] := by simpa using hlast
    simp [hnil, hempty]
  | case3 => rfl
  | case4 line ls _ ih =>
    have hline := h line List.mem_cons_self
    have hls := ih fun line' hl => h line' (List.mem_cons_of_mem line hl)
    rw [List.filterMap_cons, List.filterMap_cons, hline, hls]

/-- The lines of a text. Every newline ends a line, together with one carriage return directly in
front of it; the last line has none. -/
inductive Lined : List Char → List (List Char) → Prop
  | last {line : List Char} (h : '\n' ∉ line) : Lined line [line]
  | ended {line cs : List Char} {ls : List (List Char)} (h : '\n' ∉ line)
      (hreturn : line.getLast? ≠ some '\r') (rest : Lined cs ls) :
      Lined (line ++ '\n' :: cs) (line :: ls)
  | returned {line cs : List Char} {ls : List (List Char)} (h : '\n' ∉ line) (rest : Lined cs ls) :
      Lined (line ++ '\r' :: '\n' :: cs) (line :: ls)

theorem dropReturn_concat (line : List Char) : dropReturn (line ++ ['\r']) = line := by
  simp [dropReturn]

theorem lines_append_newline {line : List Char} (h : '\n' ∉ line) (cs : List Char) :
    lines (line ++ '\n' :: cs) = dropReturn line :: lines cs := by
  have hne : cs.splitOn '\n' ≠ [] := List.splitOn_ne_nil '\n' cs
  unfold lines
  rw [newlinePieces_eq_splitOn, newlinePieces_eq_splitOn,
    List.splitOn_append_cons_self_of_not_mem h]
  cases hpieces : cs.splitOn '\n' with
  | nil => exact absurd hpieces hne
  | cons piece pieces => rfl

theorem exists_lined (cs : List Char) : ∃ ls, Lined cs ls := by
  induction hlength : cs.length using Nat.strongRecOn generalizing cs with
  | _ n ih =>
    by_cases hn : '\n' ∈ cs
    · obtain ⟨line, rest, hcs, hline⟩ := List.eq_append_cons_of_mem hn
      have hshort : rest.length < n := by
        rw [← hlength, hcs, List.length_append, List.length_cons]
        omega
      obtain ⟨ls, hls⟩ := ih rest.length hshort rest rfl
      by_cases hreturn : line.getLast? = some '\r'
      · obtain ⟨front, hfront⟩ := List.getLast?_eq_some_iff.1 hreturn
        rw [hfront, List.mem_append, not_or] at hline
        refine ⟨front :: ls, ?_⟩
        rw [hcs, hfront, List.append_assoc]
        exact .returned hline.1 hls
      · exact ⟨line :: ls, by rw [hcs]; exact .ended hline hreturn hls⟩
    · exact ⟨[cs], .last hn⟩

/-- An empty last line says nothing, whether it is counted or not. -/
theorem Lined.filterMap_lines {α : Type} {read? : List Char → Option α} (hempty : read? [] = none)
    {cs : List Char} {ls : List (List Char)} (h : Lined cs ls) :
    (lines cs).filterMap read? = ls.filterMap read? := by
  induction h with
  | @last line h =>
    unfold lines
    rw [newlinePieces_eq_splitOn, List.splitOn_eq_singleton h, endedLines]
    by_cases hline : line = []
    · simp [hline, hempty]
    · simp [hline]
  | @ended line cs ls h hreturn rest ih =>
    have hkept : dropReturn line = line := if_neg hreturn
    rw [lines_append_newline h, hkept, List.filterMap_cons, List.filterMap_cons, ih]
  | @returned line cs ls h rest ih =>
    have hsplit : line ++ '\r' :: '\n' :: cs = (line ++ ['\r']) ++ '\n' :: cs := by simp
    have hnone : '\n' ∉ line ++ ['\r'] := by simp [h]
    rw [hsplit, lines_append_newline hnone, dropReturn_concat, List.filterMap_cons,
      List.filterMap_cons, ih]

end CSymbols.Text

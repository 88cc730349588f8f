import CSymbols.Text.Blank
import Mathlib.Data.List.Basic
import Mathlib.Data.List.TakeWhile

/-! Blank margins: what trimming takes away, and what it leaves. -/
namespace CSymbols.Text

/-- A statement about all characters of a text is decided at its characters. -/
instance decidableForallChar (cs : List Char) (p : Char → Prop) [DecidablePred p] :
    Decidable (∀ c ∈ cs, p c) :=
  List.decidableBAll p cs

instance decidableForallChar? (c? : Option Char) (p : Char → Prop) [DecidablePred p] :
    Decidable (∀ c ∈ c?, p c) :=
  Option.decidableForallMem c?

/-- Only blank characters. -/
def Blank (cs : List Char) : Prop := ∀ c ∈ cs, isBlank c = true

/-- No blank character stands at either end. The empty text is bare. -/
structure Bare (cs : List Char) : Prop where
  first : ∀ c ∈ cs.head?, isBlank c = false
  last : ∀ c ∈ cs.getLast?, isBlank c = false

instance (cs : List Char) : Decidable (Blank cs) :=
  inferInstanceAs (Decidable (∀ c ∈ cs, isBlank c = true))

theorem trimStart_append {blanks : List Char} (h : Blank blanks) (cs : List Char) :
    trimStart (blanks ++ cs) = trimStart cs :=
  List.dropWhile_append_of_pos h

theorem trimEnd_append {blanks : List Char} (h : Blank blanks) (cs : List Char) :
    trimEnd (cs ++ blanks) = trimEnd cs := by
  have hr : ∀ c ∈ blanks.reverse, isBlank c = true := fun c hc => h c (List.mem_reverse.1 hc)
  unfold trimEnd
  rw [List.reverse_append, List.dropWhile_append_of_pos hr]

theorem trimStart_of_first {cs : List Char} (h : ∀ c ∈ cs.head?, isBlank c = false) :
    trimStart cs = cs := by
  cases cs with
  | nil => rfl
  | cons c cs =>
    have hc : isBlank c = false := h c rfl
    exact List.dropWhile_cons_of_neg (by simp [hc])

theorem trimEnd_of_last {cs : List Char} (h : ∀ c ∈ cs.getLast?, isBlank c = false) :
    trimEnd cs = cs := by
  have hr : trimStart cs.reverse = cs.reverse :=
    trimStart_of_first fun c hc => h c (by rwa [List.head?_reverse] at hc)
  unfold trimStart at hr
  unfold trimEnd
  rw [hr, List.reverse_reverse]

theorem Bare.trim {cs : List Char} (h : Bare cs) : trim cs = cs := by
  unfold Text.trim
  rw [trimStart_of_first h.first, trimEnd_of_last h.last]

theorem Bare.append {front back : List Char} (hf : Bare front) (hb : Bare back) (hfn : front ≠ [])
    (hbn : back ≠ []) (middle : List Char) : Bare (front ++ (middle ++ back)) := by
  constructor
  · intro c hc
    rw [List.head?_append_of_ne_nil _ hfn] at hc
    exact hf.first c hc
  · intro c hc
    have hne : middle ++ back ≠ [] := by simp [hbn]
    rw [List.getLast?_append_of_ne_nil _ hne, List.getLast?_append_of_ne_nil _ hbn] at hc
    exact hb.last c hc

/-- What stands in front of a trimmed text is blank. -/
theorem exists_trimStart (cs : List Char) : ∃ blanks, Blank blanks ∧
    cs = blanks ++ trimStart cs ∧ ∀ c ∈ (trimStart cs).head?, isBlank c = false := by
  refine ⟨cs.takeWhile isBlank, fun c hc => List.mem_takeWhile_imp hc,
    (List.takeWhile_append_dropWhile).symm, ?_⟩
  intro c hc
  have hnot := List.head?_dropWhile_not isBlank cs
  unfold trimStart at hc
  rwa [Option.mem_def.1 hc] at hnot

theorem trimStart_eq_iff {cs text : List Char} :
    trimStart cs = text ↔
      (∃ blanks, Blank blanks ∧ cs = blanks ++ text) ∧ ∀ c ∈ text.head?, isBlank c = false := by
  constructor
  · intro h
    obtain ⟨blanks, hblank, hcs, hhead⟩ := exists_trimStart cs
    rw [h] at hcs hhead
    exact ⟨⟨blanks, hblank, hcs⟩, hhead⟩
  · intro ⟨⟨blanks, hblank, hcs⟩, hhead⟩
    rw [hcs, trimStart_append hblank, trimStart_of_first hhead]

theorem exists_trimEnd (cs : List Char) : ∃ blanks, Blank blanks ∧
    cs = trimEnd cs ++ blanks ∧ ∀ c ∈ (trimEnd cs).getLast?, isBlank c = false := by
  obtain ⟨blanks, hb, hcs, hfirst⟩ := exists_trimStart cs.reverse
  have hend : trimEnd cs = (trimStart cs.reverse).reverse := rfl
  refine ⟨blanks.reverse, fun c hc => hb c (List.mem_reverse.1 hc), ?_, ?_⟩
  · rw [hend, ← List.reverse_append, ← hcs, List.reverse_reverse]
  · intro c hc
    rw [hend, List.getLast?_reverse] at hc
    exact hfirst c hc

theorem trimEnd_trimEnd (cs : List Char) : trimEnd (trimEnd cs) = trimEnd cs := by
  obtain ⟨-, -, -, hlast⟩ := exists_trimEnd cs
  exact trimEnd_of_last hlast

/-- Trimming takes away the blank margins and nothing else. -/
theorem trim_eq_iff {cs t : List Char} : trim cs = t ↔
    ∃ front back, Blank front ∧ Blank back ∧ cs = front ++ t ++ back ∧ Bare t := by
  constructor
  · rintro rfl
    obtain ⟨front, hfront, hcs, hfirst⟩ := exists_trimStart cs
    obtain ⟨back, hback, hrest, hlast⟩ := exists_trimEnd (trimStart cs)
    refine ⟨front, back, hfront, hback, ?_, ?_, hlast⟩
    · show cs = front ++ trimEnd (trimStart cs) ++ back
      rw [List.append_assoc, ← hrest]
      exact hcs
    · intro c hc
      apply hfirst c
      rw [hrest]
      exact List.mem_head?_append_of_mem_head? hc
  · rintro ⟨front, back, hfront, hback, rfl, ht⟩
    have hstart : trimStart (front ++ t ++ back) = trimStart (t ++ back) := by
      rw [List.append_assoc, trimStart_append hfront]
    unfold trim
    rw [hstart]
    cases t with
    | nil =>
      have hnil : trimStart back = [] := List.dropWhile_eq_nil_iff.2 hback
      rw [List.nil_append, hnil]
      rfl
    | cons c t =>
      have hfirst : trimStart (c :: t ++ back) = c :: t ++ back := trimStart_of_first ht.first
      rw [hfirst, trimEnd_append hback, trimEnd_of_last ht.last]

/-- A character that is not blank ends the margin in front of it. -/
theorem trimStart_append_cons {c : Char} (hc : isBlank c = false) (front back : List Char) :
    trimStart (front ++ c :: back) = trimStart front ++ c :: back := by
  have hback : (c :: back).dropWhile isBlank = c :: back :=
    List.dropWhile_cons_of_neg (by simp [hc])
  unfold trimStart
  rw [List.dropWhile_append]
  split
  · next hempty => rw [hback, List.isEmpty_iff.1 hempty, List.nil_append]
  · rfl

theorem trimEnd_append_cons {c : Char} (hc : isBlank c = false) (front back : List Char) :
    trimEnd (front ++ c :: back) = front ++ c :: trimEnd back := by
  have hstart := trimStart_append_cons hc back.reverse front.reverse
  unfold trimStart at hstart
  unfold trimEnd
  rw [List.reverse_append, List.reverse_cons, List.append_assoc, List.singleton_append, hstart]
  simp

theorem trim_append_cons {c : Char} (hc : isBlank c = false) (front back : List Char) :
    trim (front ++ c :: back) = trimStart front ++ c :: trimEnd back := by
  unfold trim
  rw [trimStart_append_cons hc, trimEnd_append_cons hc]

theorem trim_eq_nil_iff {cs : List Char} : trim cs = [] ↔ Blank cs := by
  rw [trim_eq_iff]
  constructor
  · rintro ⟨front, back, hfront, hback, rfl, -⟩
    rw [List.append_nil]
    intro c hc
    exact (List.mem_append.1 hc).elim (hfront c) (hback c)
  · intro h
    exact ⟨cs, [], h, by simp [Blank], by simp, by simp, by simp⟩

theorem trim_append_blank {blanks : List Char} (h : Blank blanks) (cs : List Char) :
    trim (cs ++ blanks) = trim cs := by
  obtain ⟨front, back, hfront, hback, hcs, hbare⟩ := trim_eq_iff.1 (rfl : trim cs = trim cs)
  refine trim_eq_iff.2 ⟨front, back ++ blanks, hfront, ?_, ?_, hbare⟩
  · intro c hc
    exact (List.mem_append.1 hc).elim (hback c) (h c)
  · rw [← List.append_assoc, ← hcs]

end CSymbols.Text

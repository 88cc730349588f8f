import CSymbols.Diagnostic
import Mathlib.Data.List.TakeWhile

/-! The form of a diagnostic: a file, a header and a message. A line is cut at its first header. -/
namespace CSymbols.Diagnostic
open Text

theorem behind?_eq_some_iff {bs cs rest : List Char} :
    behind? bs cs = some rest ↔ cs = bs ++ rest := by
  induction bs generalizing cs with
  | nil => simp [behind?]
  | cons b bs ih =>
    cases cs with
    | nil => simp [behind?]
    | cons c cs =>
      rw [behind?]
      by_cases hbc : b = c
      · simp [hbc, ih]
      · simp [hbc, Ne.symm hbc]

/-- One digit or more, of whatever script. -/
def IsDigits (cs : List Char) : Prop := cs ≠ [] ∧ ∀ c ∈ cs, isDecimalDigit c

theorem not_isDecimalDigit_colon : ¬ isDecimalDigit ':' := by decide

theorem IsDigits.colon_not_mem {cs : List Char} (h : IsDigits cs) : ':' ∉ cs :=
  fun hc => not_isDecimalDigit_colon (h.2 ':' hc)

theorem IsDigits.number? {digits : List Char} (h : IsDigits digits) (rest : List Char) :
    number? (digits ++ ':' :: rest) = some (digits, rest) := by
  have htake : (digits ++ ':' :: rest).takeWhile isDecimalDigit = digits := by
    rw [List.takeWhile_append_of_pos h.2, List.takeWhile_cons_of_neg not_isDecimalDigit_colon,
      List.append_nil]
  have hdrop : (digits ++ ':' :: rest).dropWhile isDecimalDigit = ':' :: rest := by
    rw [List.dropWhile_append_of_pos h.2, List.dropWhile_cons_of_neg not_isDecimalDigit_colon]
  simp [Diagnostic.number?, htake, hdrop, h.1]

theorem number?_eq_some_iff {cs digits rest : List Char} :
    number? cs = some (digits, rest) ↔ IsDigits digits ∧ cs = digits ++ ':' :: rest := by
  constructor
  · intro h
    dsimp only [number?] at h
    split at h
    · next rest' hrest =>
      split at h
      · cases h
      · next hne =>
        simp only [Option.some.injEq, Prod.mk.injEq] at h
        obtain ⟨rfl, rfl⟩ := h
        have hcut := List.takeWhile_append_dropWhile (p := isDecimalDigit) (l := cs)
        rw [hrest] at hcut
        exact ⟨⟨by simpa using hne, fun c hc => List.mem_takeWhile_imp hc⟩, hcut.symm⟩
    · cases h
  · rintro ⟨hd, rfl⟩
    exact hd.number? rest

theorem severity?_label (s : Severity) (rest : List Char) :
    severity? (s.label.toList ++ ':' :: rest) = some (s, rest) := by
  cases s <;> rfl

theorem severity?_eq_some_iff {cs rest : List Char} {s : Severity} :
    severity? cs = some (s, rest) ↔ cs = s.label.toList ++ ':' :: rest := by
  constructor
  · intro h
    obtain ⟨s', -, hs⟩ := List.exists_of_findSome?_eq_some h
    obtain ⟨rest', hr, he⟩ := Option.map_eq_some_iff.1 hs
    simp only [Prod.mk.injEq] at he
    obtain ⟨rfl, rfl⟩ := he
    rw [behind?_eq_some_iff] at hr
    simp [hr]
  · rintro rfl
    exact severity?_label s rest

/-- How a header is written. Any blanks may stand in front of the severity. -/
structure Header.SpelledBy (h : Header) (cs : List Char) : Prop where
  line : IsDigits h.line
  column : IsDigits h.column
  chars : ∃ blanks, (∀ c ∈ blanks, isBlank c) ∧
    cs = ':' :: (h.line ++ ':' :: (h.column ++ ':' ::
      (blanks ++ (h.severity.label.toList ++ [':']))))

theorem label_head (s : Severity) :
    ∃ c cs, s.label.toList = c :: cs ∧ ¬ isBlank c ∧ ¬ c.isDigit := by
  cases s
  all_goals exact ⟨_, _, rfl, by decide, by decide⟩

theorem trimStart_label {blanks : List Char} (h : ∀ c ∈ blanks, isBlank c) (s : Severity)
    (cs : List Char) :
    trimStart (blanks ++ (s.label.toList ++ cs)) = s.label.toList ++ cs := by
  obtain ⟨c, ds, hl, hb, -⟩ := label_head s
  rw [trimStart, List.dropWhile_append_of_pos h, hl, List.cons_append,
    List.dropWhile_cons_of_neg hb]

theorem header?_eq_some_iff {cs rest : List Char} {h : Header} :
    header? cs = some (h, rest) ↔ ∃ front, h.SpelledBy front ∧ cs = front ++ rest := by
  constructor
  · intro hh
    unfold header? at hh
    split at hh
    · next cs' =>
      simp only [Option.bind_eq_bind, Option.bind_eq_some_iff, Option.pure_def, Option.some.injEq,
        Prod.mk.injEq, Prod.exists] at hh
      obtain ⟨line, cs₁, hline, column, cs₂, hcolumn, severity, rest', hseverity, rfl, rfl⟩ := hh
      obtain ⟨hl, rfl⟩ := number?_eq_some_iff.1 hline
      obtain ⟨hc, rfl⟩ := number?_eq_some_iff.1 hcolumn
      have hs := severity?_eq_some_iff.1 hseverity
      obtain ⟨blanks, hb, rfl⟩ : ∃ blanks, (∀ c ∈ blanks, isBlank c) ∧
          cs₂ = blanks ++ (severity.label.toList ++ ':' :: rest') := by
        refine ⟨cs₂.takeWhile isBlank, fun c h => List.mem_takeWhile_imp h, ?_⟩
        rw [← hs]
        exact List.takeWhile_append_dropWhile.symm
      refine ⟨_, ⟨hl, hc, blanks, hb, rfl⟩, ?_⟩
      simp
    · cases hh
  · rintro ⟨front, ⟨hl, hc, blanks, hb, rfl⟩, rfl⟩
    simp only [List.cons_append, List.append_assoc, List.nil_append]
    simp [header?, hl.number?, hc.number?, trimStart_label hb, severity?_label]

theorem header?_nil : header? [] = none := rfl

/-- Some part of a line has the form of a header. -/
def HasHeader (line : List Char) : Prop :=
  ∃ (file : List Char) (h : Header) (front rest : List Char),
    h.SpelledBy front ∧ line = file ++ (front ++ rest)

theorem split?_eq_some_iff {cs file rest : List Char} {h : Header} :
    split? cs = some (file, h, rest) ↔ ∃ tail, cs = file ++ tail ∧ header? tail = some (h, rest) ∧
      ∀ before behind, file = before ++ behind → behind ≠ [] → header? (behind ++ tail) = none := by
  induction cs generalizing file with
  | nil =>
    constructor
    · intro hs
      cases hs
    · rintro ⟨tail, he, hh, -⟩
      rw [(List.append_eq_nil_iff.1 he.symm).2, header?_nil] at hh
      cases hh
  | cons c cs ih =>
    rw [split?]
    constructor
    · intro hs
      split at hs
      · next h' rest' hh =>
        cases hs
        refine ⟨c :: cs, rfl, hh, ?_⟩
        intro before behind he hne
        exact absurd (List.append_eq_nil_iff.1 he.symm).2 hne
      · next hh =>
        obtain ⟨⟨file', h', rest'⟩, hcs, he⟩ := Option.map_eq_some_iff.1 hs
        cases he
        obtain ⟨tail, rfl, htail, hbefore⟩ := ih.1 hcs
        refine ⟨tail, rfl, htail, ?_⟩
        intro before behind he hne
        rcases List.cons_eq_append_iff.1 he with ⟨-, rfl⟩ | ⟨before', -, he'⟩
        · exact hh
        · exact hbefore before' behind he' hne
    · rintro ⟨tail, he, htail, hbefore⟩
      rcases List.cons_eq_append_iff.1 he with ⟨rfl, rfl⟩ | ⟨file', rfl, rfl⟩
      · rw [htail]
      · have hh : header? (c :: (file' ++ tail)) = none := hbefore [] _ rfl (by simp)
        have hcs : split? (file' ++ tail) = some (file', h, rest) := by
          refine ih.2 ⟨tail, rfl, htail, ?_⟩
          intro before behind he' hne
          exact hbefore (c :: before) behind (by rw [he']; rfl) hne
        rw [hh, hcs]
        rfl

theorem split?_eq_none_iff {cs : List Char} : split? cs = none ↔ ¬ HasHeader cs := by
  induction cs with
  | nil =>
    refine iff_of_true rfl ?_
    rintro ⟨file, h, front, rest, hs, he⟩
    obtain ⟨blanks, -, rfl⟩ := hs.chars
    simp at he
  | cons c cs ih =>
    have hcons : HasHeader (c :: cs) ↔ (∃ h rest, header? (c :: cs) = some (h, rest)) ∨
        HasHeader cs := by
      simp only [header?_eq_some_iff]
      constructor
      · rintro ⟨file, h, front, rest, hs, he⟩
        rcases List.cons_eq_append_iff.1 he with ⟨-, he'⟩ | ⟨file', -, he'⟩
        · exact .inl ⟨h, rest, front, hs, he'.symm⟩
        · exact .inr ⟨file', h, front, rest, hs, he'⟩
      · rintro (⟨h, rest, front, hs, he⟩ | ⟨file, h, front, rest, hs, he⟩)
        · exact ⟨[], h, front, rest, hs, he⟩
        · exact ⟨c :: file, h, front, rest, hs, by rw [he]; rfl⟩
    rw [split?, hcons, not_or, ← ih]
    cases hh : header? (c :: cs) with
    | none => simp
    | some r =>
      obtain ⟨h, rest⟩ := r
      simp

end CSymbols.Diagnostic

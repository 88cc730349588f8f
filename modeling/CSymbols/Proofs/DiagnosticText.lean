import CSymbols.Proofs.DiagnosticHeader
import CSymbols.Proofs.Numerals
import CSymbols.Proofs.TextLines
import Mathlib.Data.List.DropRight

/-! Diagnostics that were read are read again from the lines that are printed for them. The file may
hold colons and numbers itself, so that the point is where the first header of a printed line is. -/
namespace CSymbols.Diagnostic
open Text

/-- Of two cuts of a text at the same mark, one whose front has no mark is the earlier one. -/
theorem append_mark_cases {a : Char} {xs ys s t : List Char} (h : xs ++ a :: s = ys ++ a :: t)
    (hy : a ∉ ys) : (xs = ys ∧ s = t) ∨ ∃ zs, xs = ys ++ a :: zs ∧ t = zs ++ a :: s := by
  rcases List.append_eq_append_iff.1 h with ⟨as, hys, hs⟩ | ⟨bs, hxs, ht⟩
  · cases as with
    | nil =>
      left
      exact ⟨by simpa using hys.symm, by simpa using hs⟩
    | cons b as =>
      have hb : a = b := (List.cons.inj hs).1
      exact absurd (by simp [hys, hb]) hy
  · cases bs with
    | nil =>
      left
      exact ⟨by simpa using hxs, by simpa using ht.symm⟩
    | cons b bs =>
      obtain ⟨rfl, rfl⟩ := List.cons.inj ht
      exact .inr ⟨bs, hxs, rfl⟩

theorem isDigit_iff {c : Char} : c.isDigit ↔ 48 ≤ c.toNat ∧ c.toNat ≤ 57 := by
  simp only [Char.isDigit, Bool.and_eq_true, decide_eq_true_eq, UInt32.le_iff_toNat_le]
  rfl

theorem isDecimalDigit_of_isDigit {c : Char} (h : c.isDigit) : isDecimalDigit c := by
  have hc := isDigit_iff.1 h
  apply List.any_eq_true.2
  exact ⟨(0x30, 0x39), List.mem_cons_self, by simpa using hc⟩

theorem not_isDigit_of_isBlank {c : Char} (h : isBlank c) : ¬ c.isDigit := by
  rw [isDigit_iff]
  simp only [isBlank, inRanges, blankRanges, List.any_cons, List.any_nil, Bool.or_eq_true,
    Bool.and_eq_true, decide_eq_true_eq, Bool.or_false] at h
  omega

theorem isDigits_decimal (n : Nat) : IsDigits (decimal n) :=
  ⟨decimal_ne_nil n, fun _ hc => isDecimalDigit_of_isDigit (isDigit_of_mem_decimal hc)⟩

theorem decimal_head (n : Nat) : ∃ c cs, decimal n = c :: cs ∧ c.isDigit := by
  cases h : decimal n with
  | nil => exact absurd h (decimal_ne_nil n)
  | cons c cs => exact ⟨c, cs, rfl, isDigit_of_mem_decimal (by rw [h]; exact List.mem_cons_self)⟩

/-- Where the severity begins, blanks in front of it included, there is no digit. -/
theorem not_isDigit_of_label {blanks cs t : List Char} (hb : ∀ c ∈ blanks, isBlank c)
    {s : Severity} {c : Char} (h : blanks ++ (s.label.toList ++ cs) = c :: t) : ¬ c.isDigit := by
  cases blanks with
  | nil =>
    obtain ⟨d, ds, hl, -, hd⟩ := label_head s
    rw [List.nil_append, hl, List.cons_append] at h
    rwa [← (List.cons.inj h).1]
  | cons b blanks =>
    have hbc : b = c := (List.cons.inj h).1
    exact hbc ▸ not_isDigit_of_isBlank (hb b List.mem_cons_self)

theorem colon_not_mem_label (s : Severity) : ':' ∉ s.label.toList := by
  cases s <;> decide

/-- A header that begins inside the file of a line with a position does not reach into the position:
at most the colon behind the file belongs to it. -/
theorem header?_inside_file {file t rest : List Char} {h : Header} {n m : Nat} (hne : file ≠ [])
    (hh : header? (file ++ ':' :: (decimal n ++ ':' :: (decimal m ++ t))) = some (h, rest))
    (t' : List Char) : header? (file ++ ':' :: t') ≠ none := by
  obtain ⟨front, ⟨hl, hc, blanks, hb, rfl⟩, he⟩ := header?_eq_some_iff.1 hh
  simp only [List.cons_append, List.append_assoc, List.nil_append] at he
  have hwhole : ∀ r, header? (':' :: (h.line ++ ':' :: (h.column ++ ':' ::
      (blanks ++ (h.severity.label.toList ++ ':' :: r))))) ≠ none := by
    intro r hnone
    have hsome := header?_eq_some_iff.2 ⟨_, ⟨hl, hc, blanks, hb, rfl⟩, (rfl : _ ++ r = _)⟩
    simp only [List.cons_append, List.append_assoc, List.nil_append] at hsome
    rw [hnone] at hsome
    cases hsome
  have hlabel : ':' ∉ blanks ++ h.severity.label.toList := by
    intro hm
    rcases List.mem_append.1 hm with hm | hm
    · exact absurd (hb ':' hm) (by decide)
    · exact colon_not_mem_label _ hm
  obtain ⟨c₁, ds₁, hn, hc₁⟩ := decimal_head n
  obtain ⟨c₂, ds₂, hm, hc₂⟩ := decimal_head m
  cases file with
  | nil => exact absurd rfl hne
  | cons c file =>
    obtain ⟨hcolon, hfile⟩ := List.cons.inj he
    subst hcolon
    -- The colon behind the file is the second, the third or the last one of the header, or it comes
    -- later; a digit cannot follow where the severity has to.
    rcases append_mark_cases hfile hl.colon_not_mem with ⟨rfl, hline⟩ | ⟨zs, rfl, hline⟩
    · rcases append_mark_cases hline hc.colon_not_mem with ⟨-, hcolumn⟩ | ⟨zs, hz, -⟩
      · rw [hm] at hcolumn
        exact absurd hc₂ (not_isDigit_of_label hb hcolumn.symm)
      · have hcolon : ':' ∉ decimal n := (isDigits_decimal n).colon_not_mem
        exact absurd (by simp [hz]) hcolon
    · rcases append_mark_cases hline.symm hc.colon_not_mem with ⟨-, hcolumn⟩ | ⟨ws, rfl, hcolumn⟩
      · rw [hn] at hcolumn
        exact absurd hc₁ (not_isDigit_of_label hb hcolumn.symm)
      · rw [← List.append_assoc] at hcolumn
        rcases append_mark_cases hcolumn.symm hlabel with ⟨rfl, -⟩ | ⟨vs, rfl, -⟩
        · simpa using hwhole t'
        · simpa using hwhole (vs ++ ':' :: t')

/-- The header that is printed for a diagnostic. -/
def printedHeader (d : Diagnostic) : Header := ⟨decimal d.line, decimal d.column, d.severity⟩

theorem text_toList (d : Diagnostic) :
    d.text.toList = d.file.toList ++ ':' :: (decimal d.line ++ ':' :: (decimal d.column ++
      ':' :: ' ' :: (d.severity.label.toList ++ ':' :: ' ' :: d.message.toList))) := by
  simp [text, natText]

theorem header?_printed (d : Diagnostic) (rest : List Char) :
    header? (':' :: (decimal d.line ++ ':' :: (decimal d.column ++
      ':' :: ' ' :: (d.severity.label.toList ++ ':' :: rest)))) =
      some (d.printedHeader, rest) := by
  have hblank : ∀ c ∈ [' '], isBlank c := List.forall_mem_singleton.2 (by decide)
  apply header?_eq_some_iff.2
  refine ⟨_, ⟨isDigits_decimal d.line, isDigits_decimal d.column, [' '], hblank, rfl⟩, ?_⟩
  simp [printedHeader]

theorem ofLine?_eq_some_iff {line : List Char} {d : Diagnostic} :
    ofLine? line = some d ↔ ∃ header rest, split? line = some (d.file.toList, header, rest) ∧
      position? header.line = some d.line ∧ position? header.column = some d.column ∧
      header.severity = d.severity ∧ trimStart rest = d.message.toList := by
  obtain ⟨file, lineNumber, column, severity, message⟩ := d
  simp only [ofLine?, Option.bind_eq_bind, Option.pure_def, Option.bind_eq_some_iff,
    Option.some.injEq, mk.injEq, Prod.exists]
  constructor
  · rintro ⟨file', header, rest, hs, l, hl, c, hc, rfl, rfl, rfl, rfl, rfl⟩
    exact ⟨header, rest, by simpa using hs, hl, hc, rfl, by simp⟩
  · rintro ⟨header, rest, hs, hl, hc, rfl, hm⟩
    exact ⟨_, header, rest, hs, _, hl, _, hc, by simp [hm]⟩

theorem position?_eq_some {digits : List Char} {n : Nat} (h : position? digits = some n) :
    position? (decimal n) = some n := by
  obtain ⟨-, hn⟩ := Option.filter_eq_some_iff.1 h
  rw [position?, digitsValue?_decimal, Option.filter_some, if_pos hn]

theorem trimStart_space (cs : List Char) : trimStart (' ' :: cs) = trimStart cs := rfl

/-- The line that is printed for a diagnostic is read as the diagnostic. -/
theorem ofLine?_text {line : List Char} {d : Diagnostic} (h : ofLine? line = some d) :
    ofLine? d.text.toList = some d := by
  obtain ⟨header, rest, hs, hl, hc, -, hm⟩ := ofLine?_eq_some_iff.1 h
  obtain ⟨tail, rfl, htail, hbefore⟩ := split?_eq_some_iff.1 hs
  obtain ⟨front, ⟨-, -, blanks, -, rfl⟩, rfl⟩ := header?_eq_some_iff.1 htail
  apply ofLine?_eq_some_iff.2
  refine ⟨d.printedHeader, ' ' :: d.message.toList, ?_, position?_eq_some hl, position?_eq_some hc,
    rfl, ?_⟩
  · refine split?_eq_some_iff.2 ⟨_, d.text_toList, d.header?_printed _, ?_⟩
    intro before behind hfile hne
    by_contra hsome
    obtain ⟨⟨h', rest'⟩, hh⟩ := Option.ne_none_iff_exists'.1 hsome
    exact header?_inside_file hne hh _ (hbefore before behind hfile hne)
  · rw [trimStart_space, ← hm, trimStart, trimStart, List.dropWhile_idempotent]

theorem newline_not_mem_text {line : List Char} {d : Diagnostic} (h : ofLine? line = some d)
    (hn : '\n' ∉ line) : '\n' ∉ d.text.toList := by
  obtain ⟨header, rest, hs, -, -, -, hm⟩ := ofLine?_eq_some_iff.1 h
  obtain ⟨tail, rfl, htail, -⟩ := split?_eq_some_iff.1 hs
  obtain ⟨front, -, rfl⟩ := header?_eq_some_iff.1 htail
  have hfile : '\n' ∉ d.file.toList := fun hc => hn (List.mem_append_left _ hc)
  have hmessage : '\n' ∉ d.message.toList := by
    intro hc
    rw [← hm] at hc
    have hrest : '\n' ∈ rest := (List.dropWhile_sublist isBlank).subset hc
    exact hn (List.mem_append_right _ (List.mem_append_right _ hrest))
  have hdigits : ∀ n, '\n' ∉ decimal n := by
    intro n hc
    exact absurd (isDigit_of_mem_decimal hc) (by decide)
  have hlabel : '\n' ∉ d.severity.label.toList := by
    cases d.severity <;> decide
  rw [text_toList]
  simp [hfile, hmessage, hdigits, hlabel]

theorem text_toList_ne_nil (d : Diagnostic) : d.text.toList ≠ [] := by
  rw [text_toList]
  simp

theorem dropReturn_text {d : Diagnostic} (h : d.message.toList.getLast? ≠ some '\r') :
    dropReturn d.text.toList = d.text.toList := by
  apply if_neg
  rw [text_toList]
  simp only [List.getLast?_append, List.getLast?_cons]
  cases hm : d.message.toList.getLast? with
  | none => simp
  | some c =>
    rw [hm] at h
    simpa using h

theorem HasHeader.append {line : List Char} (h : HasHeader line) (cs : List Char) :
    HasHeader (line ++ cs) := by
  obtain ⟨file, header, front, rest, hs, rfl⟩ := h
  exact ⟨file, header, front, rest ++ cs, hs, by simp⟩

theorem hasHeader_of_dropReturn {line : List Char} (h : HasHeader (dropReturn line)) :
    HasHeader line := by
  unfold dropReturn at h
  split at h
  · next hr =>
    have hline : line.dropLast ++ ['\r'] = line := List.dropLast_append_getLast? '\r' hr
    have happ := h.append ['\r']
    rwa [hline] at happ
  · exact h

theorem ofLine?_eq_none {line : List Char} (h : ¬ HasHeader line) : ofLine? line = none := by
  rw [ofLine?, split?_eq_none_iff.2 h]
  rfl

theorem mem_parse_iff {output : String} {d : Diagnostic} :
    d ∈ parse output ↔ ∃ line ∈ lines output.toList, ofLine? line = some d :=
  List.mem_filterMap

/-- Lines that are joined by newlines are read one by one, if a carriage return at the end of one
makes no difference to it. -/
theorem parse_intercalate {ls : List String} (hn : ∀ l ∈ ls, '\n' ∉ l.toList)
    (hr : ∀ l ∈ ls, ofLine? (dropReturn l.toList) = ofLine? l.toList) :
    parse ("\n".intercalate ls) = ls.filterMap fun l => ofLine? l.toList := by
  have hlines : lines ("\n".intercalate ls).toList = endedLines (ls.map String.toList) := by
    rw [String.toList_intercalate]
    apply lines_intercalate
    simpa using hn
  have hempty : ofLine? [] = none := rfl
  rw [parse, hlines, filterMap_endedLines hempty (by simpa using hr), List.filterMap_map]
  rfl

/-- A line of some output: a diagnostic as it is printed, or a line of another form. -/
inductive OutputLine where
  | diagnostic (d : Diagnostic)
  | other (line : String)

namespace OutputLine

def text : OutputLine → String
  | diagnostic d => d.text
  | other line => line

def diagnostic? : OutputLine → Option Diagnostic
  | diagnostic d => some d
  | other _ => none

/-- The diagnostic was read from some output, and its message does not end in a carriage return; any
other line is one line without a header. -/
def Admissible : OutputLine → Prop
  | diagnostic d => (∃ output, d ∈ parse output) ∧ d.message.toList.getLast? ≠ some '\r'
  | other line => '\n' ∉ line.toList ∧ ¬ HasHeader line.toList

theorem Admissible.newline_not_mem {l : OutputLine} (h : l.Admissible) : '\n' ∉ l.text.toList := by
  cases l with
  | diagnostic d =>
    obtain ⟨⟨output, hd⟩, -⟩ := h
    obtain ⟨line, hl, hline⟩ := mem_parse_iff.1 hd
    exact newline_not_mem_text hline (newline_not_mem_of_mem_lines hl)
  | other line => exact h.1

theorem Admissible.ofLine? {l : OutputLine} (h : l.Admissible) :
    ofLine? l.text.toList = l.diagnostic? := by
  cases l with
  | diagnostic d =>
    obtain ⟨⟨output, hd⟩, -⟩ := h
    obtain ⟨line, -, hline⟩ := mem_parse_iff.1 hd
    exact ofLine?_text hline
  | other line => exact ofLine?_eq_none h.2

theorem Admissible.dropReturn {l : OutputLine} (h : l.Admissible) :
    Diagnostic.ofLine? (Text.dropReturn l.text.toList) = Diagnostic.ofLine? l.text.toList := by
  cases l with
  | diagnostic d => rw [text, dropReturn_text h.2]
  | other line =>
    have hdrop := ofLine?_eq_none fun hh => h.2 (hasHeader_of_dropReturn hh)
    rw [text, hdrop, ofLine?_eq_none h.2]

end OutputLine

theorem parse_text {output : String} {d : Diagnostic} (h : d ∈ parse output) :
    parse d.text = [d] := by
  obtain ⟨line, hl, hline⟩ := mem_parse_iff.1 h
  have hn := newline_not_mem_text hline (newline_not_mem_of_mem_lines hl)
  have hlines : lines d.text.toList = [d.text.toList] := by
    have hone : ∀ l ∈ [d.text.toList], '\n' ∉ l := by simpa using hn
    simpa [endedLines, d.text_toList_ne_nil] using lines_intercalate hone
  rw [parse, hlines]
  simp [ofLine?_text hline]

/-- What was read is printed and read again: a diagnostic by itself, and any number of them on lines
of their own among lines that have no header. -/
theorem parse_printed :
    (∀ output, ∀ d ∈ parse output, parse d.text = [d]) ∧
    ∀ ls : List OutputLine, (∀ l ∈ ls, l.Admissible) →
      parse ("\n".intercalate (ls.map OutputLine.text)) = ls.filterMap OutputLine.diagnostic? := by
  constructor
  · intro output d hd
    exact parse_text hd
  · intro ls h
    have hn : ∀ l ∈ ls.map OutputLine.text, '\n' ∉ l.toList := by
      intro l hl
      obtain ⟨o, ho, rfl⟩ := List.mem_map.1 hl
      exact (h o ho).newline_not_mem
    have hr : ∀ l ∈ ls.map OutputLine.text, ofLine? (dropReturn l.toList) = ofLine? l.toList := by
      intro l hl
      obtain ⟨o, ho, rfl⟩ := List.mem_map.1 hl
      exact (h o ho).dropReturn
    rw [parse_intercalate hn hr, List.filterMap_map]
    apply List.filterMap_congr
    intro o ho
    exact (h o ho).ofLine?

/-- A file that ends like a position, and a message that looks like a diagnostic. -/
def misleading : Diagnostic := ⟨"a:1", 2, 3, .fatal, "b:4:5: note: c"⟩

def misleadingLines : List OutputLine :=
  [.other "a:1: error: d\r", .diagnostic misleading, .other ""]

theorem parse_printed_misleading :
    misleading ∈ parse "a:1:02:3:\tfatal error:b:4:5: note: c\r\n" ∧
    parse misleading.text = [misleading] ∧ (∀ l ∈ misleadingLines, l.Admissible) ∧
    parse ("\n".intercalate (misleadingLines.map OutputLine.text)) = [misleading] := by
  obtain ⟨hone, hmany⟩ := parse_printed
  have hmem : misleading ∈ parse "a:1:02:3:\tfatal error:b:4:5: note: c\r\n" := by
    decide +kernel
  have hother : ∀ line ∈ ["a:1: error: d\r", ""], (OutputLine.other line).Admissible := by
    intro line hl
    have hsplit : '\n' ∉ line.toList ∧ split? line.toList = none := by
      revert line
      decide +kernel
    exact ⟨hsplit.1, split?_eq_none_iff.1 hsplit.2⟩
  have hlines : ∀ l ∈ misleadingLines, l.Admissible := by
    intro l hl
    simp only [misleadingLines, List.mem_cons, List.not_mem_nil, or_false] at hl
    rcases hl with rfl | rfl | rfl
    · exact hother _ (by simp)
    · exact ⟨⟨_, hmem⟩, by decide +kernel⟩
    · exact hother _ (by simp)
  exact ⟨hmem, hone _ _ hmem, hlines, hmany misleadingLines hlines⟩

end CSymbols.Diagnostic

import CSymbols.Proofs.DiagnosticText
import CSymbols.Proofs.Trimming

/-! Which diagnostic a line tells. Of all texts at the front of a line that have a header behind
them the shortest is the file, and only then the numbers of its header are looked at. -/
namespace CSymbols.Diagnostic
open Text

/-- A text at the front of a line has a header directly behind it. -/
def HeaderBehind (line file : List Char) (h : Header) (rest : List Char) : Prop :=
  ∃ front, h.SpelledBy front ∧ line = file ++ (front ++ rest)

/-- The shortest text at the front of a line that has a header behind it. -/
structure FirstHeader (line file : List Char) (h : Header) (rest : List Char) : Prop where
  behind : HeaderBehind line file h rest
  shortest : ∀ file' h' rest', HeaderBehind line file' h' rest' → file.length ≤ file'.length

theorem headerBehind_iff {line file rest : List Char} {h : Header} :
    HeaderBehind line file h rest ↔
      ∃ tail, line = file ++ tail ∧ header? tail = some (h, rest) := by
  constructor
  · intro ⟨front, hfront, hline⟩
    exact ⟨front ++ rest, hline, header?_eq_some_iff.2 ⟨front, hfront, rfl⟩⟩
  · intro ⟨tail, hline, htail⟩
    obtain ⟨front, hfront, hsplit⟩ := header?_eq_some_iff.1 htail
    exact ⟨front, hfront, by rw [hline, hsplit]⟩

theorem firstHeader_of_split? {line file rest : List Char} {h : Header}
    (hs : split? line = some (file, h, rest)) : FirstHeader line file h rest := by
  obtain ⟨tail, hline, htail, hbefore⟩ := split?_eq_some_iff.1 hs
  refine ⟨headerBehind_iff.2 ⟨tail, hline, htail⟩, ?_⟩
  intro file' h' rest' hbehind
  obtain ⟨tail', hline', htail'⟩ := headerBehind_iff.1 hbehind
  by_contra hlt
  -- A header behind a shorter text would begin inside of the file.
  have hsame : file' ++ tail' = file ++ tail := hline'.symm.trans hline
  have hfront : file' <+: file := by
    apply List.prefix_of_prefix_length_le ⟨tail', rfl⟩ ⟨tail, hsame.symm⟩
    omega
  obtain ⟨behind, hfile⟩ := hfront
  have hne : behind ≠ [] := by
    intro hnil
    rw [← hfile, hnil, List.append_nil] at hlt
    omega
  rw [← hfile, List.append_assoc] at hsame
  rw [List.append_cancel_left hsame, hbefore file' behind hfile.symm hne] at htail'
  cases htail'

theorem FirstHeader.unique {line file rest file' rest' : List Char} {h h' : Header}
    (hf : FirstHeader line file h rest) (hf' : FirstHeader line file' h' rest') :
    file = file' ∧ h = h' ∧ rest = rest' := by
  obtain ⟨tail, hline, htail⟩ := headerBehind_iff.1 hf.behind
  obtain ⟨tail', hline', htail'⟩ := headerBehind_iff.1 hf'.behind
  have hle := hf.shortest file' h' rest' hf'.behind
  have hge := hf'.shortest file h rest hf.behind
  obtain ⟨hfile, hrest⟩ := List.append_inj (hline.symm.trans hline') (by omega)
  rw [hrest, htail'] at htail
  obtain ⟨hheader, hbehind⟩ := Prod.mk.inj (Option.some.inj htail)
  exact ⟨hfile, hheader.symm, hbehind.symm⟩

theorem split?_eq_some_iff_firstHeader {line file rest : List Char} {h : Header} :
    split? line = some (file, h, rest) ↔ FirstHeader line file h rest := by
  refine ⟨firstHeader_of_split?, fun hf => ?_⟩
  cases hs : split? line with
  | none =>
    obtain ⟨front, hfront, hline⟩ := hf.behind
    exact absurd ⟨file, h, front, rest, hfront, hline⟩ (split?_eq_none_iff.1 hs)
  | some r =>
    obtain ⟨file', h', rest'⟩ := r
    obtain ⟨hfile, hheader, hrest⟩ := hf.unique (firstHeader_of_split? hs)
    rw [hfile, hheader, hrest]

theorem appendDigit?_ten (n : Nat) (c : Char) :
    appendDigit? 10 n c = if c.isDigit then some (10 * n + (c.toNat - 48)) else none := by
  unfold appendDigit? hexDigit?
  by_cases hc : c.isDigit
  · have hrange := isDigit_iff.1 hc
    have hlt : c.toNat - 48 < 10 := by omega
    simp [hc, hlt]
  · -- The letters that are hexadecimal digits stand for ten and more.
    have hlower : 'a' ≤ c → ¬ c.toNat - 87 < 10 := by
      intro ha
      have : 97 ≤ c.toNat := ha
      omega
    have hupper : 'A' ≤ c → ¬ c.toNat - 55 < 10 := by
      intro ha
      have : 65 ≤ c.toNat := ha
      omega
    rw [if_neg hc, if_neg hc]
    split_ifs with ha hA
    · have hle := (Bool.and_eq_true_iff.1 ha).1
      simp [hlower (by simpa using hle)]
    · have hle := (Bool.and_eq_true_iff.1 hA).1
      simp [hupper (by simpa using hle)]
    · rfl

theorem foldlM_appendDigit?_ten {cs : List Char} {k n : Nat} :
    cs.foldlM (appendDigit? 10) k = some n ↔
      (∀ c ∈ cs, c.isDigit) ∧ cs.foldl (fun n c => 10 * n + (c.toNat - 48)) k = n := by
  induction cs generalizing k with
  | nil => simp
  | cons c cs ih =>
    rw [List.foldlM_cons, appendDigit?_ten, List.forall_mem_cons, List.foldl_cons]
    by_cases hc : c.isDigit
    · simp [hc, ih]
    · simp [hc]

/-- ASCII digits that denote a number of 32 bits. -/
structure IsPosition (digits : List Char) (n : Nat) : Prop where
  ascii : ∀ c ∈ digits, c.isDigit
  value : decimalValue digits = n
  le : n ≤ 4294967295

theorem position?_eq_some_iff {digits : List Char} (hne : digits ≠ []) {n : Nat} :
    position? digits = some n ↔ IsPosition digits n := by
  rw [position?, digitsValue?_eq hne, Option.filter_eq_some_iff, foldlM_appendDigit?_ten]
  constructor
  · intro h
    obtain ⟨⟨hascii, hvalue⟩, hlt⟩ := h
    have hlt' : n < 4294967296 := by simpa using hlt
    exact ⟨hascii, hvalue, by omega⟩
  · intro h
    have hle := h.le
    exact ⟨⟨h.ascii, h.value⟩, by simp; omega⟩

/-- A line tells a diagnostic: its first header gives the file, the two positions and the severity,
and what stands behind the header is the message, blanks in front of it apart. -/
structure Tells (line : List Char) (h : Header) (rest : List Char) (d : Diagnostic) : Prop where
  first : FirstHeader line d.file.toList h rest
  line_eq : IsPosition h.line d.line
  column_eq : IsPosition h.column d.column
  severity_eq : d.severity = h.severity
  message : ∃ blanks, Blank blanks ∧ rest = blanks ++ d.message.toList
  unblank : ∀ c ∈ d.message.toList.head?, isBlank c = false

theorem ofLine?_eq_some_iff_tells {line : List Char} {d : Diagnostic} :
    ofLine? line = some d ↔ ∃ header rest, Tells line header rest d := by
  rw [ofLine?_eq_some_iff]
  constructor
  · intro ⟨header, rest, hsplit, hline, hcolumn, hseverity, hmessage⟩
    have hfirst := split?_eq_some_iff_firstHeader.1 hsplit
    obtain ⟨front, hfront, -⟩ := hfirst.behind
    obtain ⟨hblanks, hhead⟩ := trimStart_eq_iff.1 hmessage
    exact ⟨header, rest, hfirst, (position?_eq_some_iff hfront.line.1).1 hline,
      (position?_eq_some_iff hfront.column.1).1 hcolumn, hseverity.symm, hblanks, hhead⟩
  · intro ⟨header, rest, h⟩
    obtain ⟨front, hfront, -⟩ := h.first.behind
    exact ⟨header, rest, split?_eq_some_iff_firstHeader.2 h.first,
      (position?_eq_some_iff hfront.line.1).2 h.line_eq,
      (position?_eq_some_iff hfront.column.1).2 h.column_eq, h.severity_eq.symm,
      trimStart_eq_iff.2 ⟨h.message, h.unblank⟩⟩

/-- A line tells a diagnostic of a severity just if its first header has that severity and two
positions. -/
theorem exists_ofLine?_iff (line : List Char) (P : Severity → Prop) :
    (∃ d, ofLine? line = some d ∧ P d.severity) ↔
      ∃ file header rest, FirstHeader line file header rest ∧ (∃ n, IsPosition header.line n) ∧
        (∃ n, IsPosition header.column n) ∧ P header.severity := by
  constructor
  · intro ⟨d, hd, hseverity⟩
    obtain ⟨header, rest, h⟩ := ofLine?_eq_some_iff_tells.1 hd
    rw [h.severity_eq] at hseverity
    exact ⟨d.file.toList, header, rest, h.first, ⟨d.line, h.line_eq⟩, ⟨d.column, h.column_eq⟩,
      hseverity⟩
  · intro ⟨file, header, rest, hfirst, ⟨n, hn⟩, ⟨m, hm⟩, hseverity⟩
    obtain ⟨hblanks, hhead⟩ := trimStart_eq_iff.1 (rfl : trimStart rest = trimStart rest)
    refine ⟨⟨String.ofList file, n, m, header.severity, String.ofList (trimStart rest)⟩, ?_,
      hseverity⟩
    apply ofLine?_eq_some_iff_tells.2
    refine ⟨header, rest, ?_, hn, hm, rfl, ?_, ?_⟩
    · simpa using hfirst
    · simpa using hblanks
    · simpa using hhead

/-- A line is read by its first header alone: it tells a diagnostic just if both numbers of that
header are positions, whatever a longer text at its front has behind it. -/
structure ReadByFirstHeader (line : List Char) : Prop where
  some_iff : ∀ d, ofLine? line = some d ↔ ∃ header rest, Tells line header rest d
  isSome_iff : (ofLine? line).isSome ↔ ∃ file header rest, FirstHeader line file header rest ∧
    (∃ n, IsPosition header.line n) ∧ ∃ n, IsPosition header.column n
  bad : ∀ file header rest, FirstHeader line file header rest →
    (¬ ∃ n, IsPosition header.line n) ∨ (¬ ∃ n, IsPosition header.column n) → ofLine? line = none

theorem readByFirstHeader (line : List Char) : ReadByFirstHeader line where
  some_iff _ := ofLine?_eq_some_iff_tells
  isSome_iff := by
    rw [Option.isSome_iff_exists]
    simpa using exists_ofLine?_iff line fun _ => True
  bad file header rest hfirst hbad := by
    rw [Option.eq_none_iff_forall_ne_some]
    intro d hd
    obtain ⟨header', rest', h⟩ := ofLine?_eq_some_iff_tells.1 hd
    obtain ⟨-, hheader, -⟩ := hfirst.unique h.first
    rw [hheader] at hbad
    rcases hbad with hline | hcolumn
    · exact hline ⟨d.line, h.line_eq⟩
    · exact hcolumn ⟨d.column, h.column_eq⟩

/-- The diagnostics of an output are those that its lines tell, in order, and each line is read by
its first header. -/
theorem parse_tells (output : String) :
    (∃ ls, Lined output.toList ls) ∧
      ∀ ls, Lined output.toList ls →
        parse output = ls.filterMap ofLine? ∧ ∀ line ∈ ls, ReadByFirstHeader line := by
  refine ⟨exists_lined output.toList, ?_⟩
  intro ls hls
  have hempty : ofLine? [] = none := rfl
  exact ⟨hls.filterMap_lines hempty, fun line _ => readByFirstHeader line⟩

/-- A first header with a digit of another script, and a second one behind it. -/
def hiddenLine : List Char := "a:\u0663:1: error: x:2:3: note: y".toList

/-- The greatest column, and a message that ends in a carriage return. -/
def lastLine : List Char := "b:1:4294967295:\u3000fatal error: m\r".toList

theorem parse_tells_hidden :
    Lined (hiddenLine ++ '\r' :: '\n' :: lastLine) [hiddenLine, lastLine] ∧
    parse (String.ofList (hiddenLine ++ '\r' :: '\n' :: lastLine)) =
      [⟨"b", 1, 4294967295, .fatal, "m\r"⟩] := by
  have hlined : Lined (hiddenLine ++ '\r' :: '\n' :: lastLine) [hiddenLine, lastLine] :=
    .returned (by decide +kernel) (.last (by decide +kernel))
  refine ⟨hlined, ?_⟩
  rw [← String.toList_ofList (l := hiddenLine ++ '\r' :: '\n' :: lastLine)] at hlined
  rw [((parse_tells _).2 _ hlined).1]
  decide +kernel

end CSymbols.Diagnostic

import CSymbols.Compiler
import CSymbols.Proofs.Utf8Encoding
import Mathlib.Data.List.TakeWhile

/-! What comes of a run of the compiler: the run decides by what it wrote and by the errors that it
reported, never by its exit status. -/
namespace CSymbols.Compiler
open Text.Utf8 (Encodes)

/-- A diagnostic with the path of the file in place of the name of standard input. -/
structure Relabelled (filePath : String) (d d' : Diagnostic) : Prop where
  file : d'.file = if d.file = "<stdin>" then filePath else d.file
  line : d'.line = d.line
  column : d'.column = d.column
  severity : d'.severity = d.severity
  message : d'.message = d.message

theorem relabelled_relabel (filePath : String) (d : Diagnostic) :
    Relabelled filePath d (relabel filePath d) := by
  unfold relabel standardInput
  split_ifs with h
  · exact ⟨by rw [if_pos h], rfl, rfl, rfl, rfl⟩
  · exact ⟨by rw [if_neg h], rfl, rfl, rfl, rfl⟩

theorem forall₂_relabelled (filePath : String) (r : Run) :
    List.Forall₂ (Relabelled filePath) (Diagnostic.parse (Text.Utf8.lossyText r.errors))
      (diagnostics filePath r) := by
  rw [diagnostics, List.forall₂_map_right_iff]
  apply List.forall₂_same.2
  intro d _
  exact relabelled_relabel filePath d

/-- The first character of a text that is not blank opens an object. -/
def OpensObject (document : String) : Prop :=
  ∃ blanks rest, (∀ c ∈ blanks, Text.isBlank c) ∧ document.toList = blanks ++ '\x7b' :: rest

theorem looksLikeTree_iff {document : String} :
    looksLikeTree document ↔ OpensObject document := by
  have hbrace : ¬ Text.isBlank '\x7b' := by decide
  rw [looksLikeTree, beq_iff_eq, List.head?_eq_some_iff]
  constructor
  · rintro ⟨rest, hrest⟩
    refine ⟨document.toList.takeWhile Text.isBlank, rest, fun c hc => List.mem_takeWhile_imp hc, ?_⟩
    rw [← hrest]
    exact List.takeWhile_append_dropWhile.symm
  · rintro ⟨blanks, rest, hb, he⟩
    refine ⟨rest, ?_⟩
    rw [he, Text.trimStart, List.dropWhile_append_of_pos hb, List.dropWhile_cons_of_neg hbrace]

/-- An error, fatal or not. -/
def ReportsError (d : Diagnostic) : Prop := d.severity = .error ∨ d.severity = .fatal

theorem isError_iff {d : Diagnostic} : d.isError ↔ ReportsError d := by
  unfold Diagnostic.isError Severity.isError ReportsError
  cases d.severity <;> simp

/-- No tree is looked for in the output of a run: an error counts, or the output is a text of
another kind. -/
def GivenUp (s : CompilerSettings) (filePath : String) (r : Run) : Prop :=
  (s.strict ∧ ∃ d ∈ diagnostics filePath r, ReportsError d) ∨
    ∃ document, Encodes document r.output ∧ ¬ OpensObject document

/-- The output of a run is the document of a tree. -/
def Wrote (r : Run) (root : Tree.Node) : Prop :=
  ∃ document, Encodes document r.output ∧ Tree.parse? document = some root

section Judge
variable {s : CompilerSettings} {filePath : String} {r : Run} (source : String)

theorem strictFault_iff : (s.strict && (diagnostics filePath r).any Diagnostic.isError) ↔
    s.strict ∧ ∃ d ∈ diagnostics filePath r, ReportsError d := by
  simp only [Bool.and_eq_true, List.any_eq_true, isError_iff]

theorem judge_of_givenUp (h : GivenUp s filePath r) :
    judge s filePath source r = .error (.failed r.status (diagnostics filePath r)) := by
  unfold judge
  by_cases hs : s.strict && (diagnostics filePath r).any Diagnostic.isError
  · simp only [hs, if_true]
  · rcases h with h | ⟨document, hd, ho⟩
    · exact absurd (strictFault_iff.2 h) hs
    · have htext := Text.Utf8.text?_eq_ok_iff.2 hd
      have hlooks : ¬ looksLikeTree document := fun h => ho (looksLikeTree_iff.1 h)
      simp [hs, htext, hlooks]

/-- Unless a run is given up, its output alone decides. -/
theorem judge_of_not_givenUp (h : ¬ GivenUp s filePath r) :
    judge s filePath source r =
      match Text.Utf8.text? r.output with
      | .error fault => .error (.invalidTree ("AST dump is not valid UTF-8: " ++ fault.message))
      | .ok document => (SourceUnit.ofDocument filePath source "<stdin>" document).map fun u =>
          { u with diagnostics := diagnostics filePath r } := by
  have hs : ¬ (s.strict && (diagnostics filePath r).any Diagnostic.isError) :=
    fun hs => h (.inl (strictFault_iff.1 hs))
  unfold judge
  cases htext : Text.Utf8.text? r.output with
  | error fault => simp [hs]
  | ok document =>
    have hd := Text.Utf8.text?_eq_ok_iff.1 htext
    have hlooks : looksLikeTree document := by
      by_contra hno
      exact h (.inr ⟨document, hd, fun ho => hno (looksLikeTree_iff.2 ho)⟩)
    simp [hs, hlooks, standardInput]

theorem judge_of_wrote (h : ¬ GivenUp s filePath r) {root : Tree.Node} (hw : Wrote r root) :
    judge s filePath source r =
      .ok ⟨filePath, source, "<stdin>", root, diagnostics filePath r⟩ := by
  obtain ⟨document, hd, hroot⟩ := hw
  rw [judge_of_not_givenUp source h, Text.Utf8.text?_eq_ok_iff.2 hd]
  simp [SourceUnit.ofDocument, hroot, Except.map]

theorem judge_of_not_wrote (h : ¬ GivenUp s filePath r) (hw : ¬ ∃ root, Wrote r root) :
    ∃ reason, judge s filePath source r = .error (.invalidTree reason) := by
  rw [judge_of_not_givenUp source h]
  cases htext : Text.Utf8.text? r.output with
  | error fault => exact ⟨_, rfl⟩
  | ok document =>
    have hd := Text.Utf8.text?_eq_ok_iff.1 htext
    have hroot : Tree.parse? document = none := by
      by_contra hne
      obtain ⟨root, hroot⟩ := Option.ne_none_iff_exists'.1 hne
      exact hw ⟨root, document, hd, hroot⟩
    exact ⟨ParseError.unspecified, by simp [SourceUnit.ofDocument, hroot, Except.map]⟩

end Judge

/-- The three ways in which a run can come out. -/
theorem judge_cases (s : CompilerSettings) (filePath source : String) (r : Run) :
    (GivenUp s filePath r ∧
      judge s filePath source r = .error (.failed r.status (diagnostics filePath r))) ∨
    (¬ GivenUp s filePath r ∧ ∃ root, Wrote r root ∧
      judge s filePath source r =
        .ok ⟨filePath, source, "<stdin>", root, diagnostics filePath r⟩) ∨
    (¬ GivenUp s filePath r ∧ (¬ ∃ root, Wrote r root) ∧
      ∃ reason, judge s filePath source r = .error (.invalidTree reason)) := by
  by_cases h : GivenUp s filePath r
  · exact .inl ⟨h, judge_of_givenUp source h⟩
  by_cases hw : ∃ root, Wrote r root
  · obtain ⟨root, hroot⟩ := hw
    exact .inr (.inl ⟨h, root, hroot, judge_of_wrote source h hroot⟩)
  · exact .inr (.inr ⟨h, hw, judge_of_not_wrote source h hw⟩)

theorem Wrote.unique {r : Run} {root root' : Tree.Node} (h : Wrote r root) (h' : Wrote r root') :
    root = root' := by
  obtain ⟨document, hd, hroot⟩ := h
  obtain ⟨document', hd', hroot'⟩ := h'
  rw [hd.unique hd'] at hroot
  exact Option.some.inj (hroot.symm.trans hroot')

/-- The result of a run: given up with its status and diagnostics, or without a tree, or the unit of
the tree that it wrote, each just under its condition. -/
structure Judged (s : CompilerSettings) (filePath source : String) (r : Run) : Prop where
  failed : ∀ status ds, parse s filePath source (.ok r) = .error (.failed status ds) ↔
    GivenUp s filePath r ∧ status = r.status ∧ ds = diagnostics filePath r
  invalid : (∃ reason, parse s filePath source (.ok r) = .error (.invalidTree reason)) ↔
    ¬ GivenUp s filePath r ∧ ¬ ∃ root, Wrote r root
  ok : ∀ u, parse s filePath source (.ok r) = .ok u ↔ ¬ GivenUp s filePath r ∧
    ∃ root, Wrote r root ∧ u = ⟨filePath, source, "<stdin>", root, diagnostics filePath r⟩

theorem judged (s : CompilerSettings) (filePath source : String) (r : Run) :
    Judged s filePath source r := by
  have hparse : parse s filePath source (.ok r) = judge s filePath source r := rfl
  rcases judge_cases s filePath source r with
    ⟨h, hjudge⟩ | ⟨h, root, hroot, hjudge⟩ | ⟨h, hw, reason, hjudge⟩
  · rw [← hparse] at hjudge
    constructor <;> simp [hjudge, h, eq_comm]
  · rw [← hparse] at hjudge
    refine ⟨by simp [hjudge, h], ?_, ?_⟩
    · rw [hjudge]
      exact iff_of_false (by simp) fun hw => hw.2 ⟨root, hroot⟩
    · intro u
      rw [hjudge, Except.ok.injEq]
      constructor
      · intro hu
        exact ⟨h, root, hroot, hu.symm⟩
      · rintro ⟨-, root', hroot', rfl⟩
        rw [hroot.unique hroot']
  · rw [← hparse] at hjudge
    refine ⟨by simp [hjudge, h], by simp [hjudge, h, hw], ?_⟩
    intro u
    rw [hjudge]
    refine iff_of_false (by simp) ?_
    rintro ⟨-, root, hroot, -⟩
    exact hw ⟨root, hroot⟩

theorem judge_ne_launch (s : CompilerSettings) (filePath source : String) (r : Run)
    (command reason : String) : judge s filePath source r ≠ .error (.launch command reason) := by
  intro h
  rcases judge_cases s filePath source r with
    ⟨-, hjudge⟩ | ⟨-, root, -, hjudge⟩ | ⟨-, -, reason, hjudge⟩
  all_goals
    rw [hjudge] at h
    cases h

/-- A compiler that does not start is the only cause of a failed launch. Any run is given up, has no
tree or has a unit, by its output and, if the settings are strict, by the errors among its
diagnostics. Its status does not decide whether there is a unit, and under strict settings a unit
has no errors. -/
theorem parse_outcome (s : CompilerSettings) (filePath source : String) :
    (∀ outcome command reason,
      parse s filePath source outcome = .error (.launch command reason) ↔
        command = s.command ∧ outcome = .error reason) ∧
    ∀ r : Run,
      List.Forall₂ (Relabelled filePath) (Diagnostic.parse (Text.Utf8.lossyText r.errors))
        (diagnostics filePath r) ∧
      Judged s filePath source r ∧
      (∀ status u, parse s filePath source (.ok { r with status := status }) = .ok u ↔
        parse s filePath source (.ok r) = .ok u) ∧
      (s.strict → ∀ u, parse s filePath source (.ok r) = .ok u →
        ∀ d ∈ u.diagnostics, ¬ ReportsError d) := by
  constructor
  · intro outcome command reason
    cases outcome with
    | error reason' => simp [parse, eq_comm]
    | ok r => exact iff_of_false (judge_ne_launch s filePath source r command reason) (by simp)
  · intro r
    have hr := judged s filePath source r
    refine ⟨forall₂_relabelled filePath r, hr, ?_, ?_⟩
    · intro status u
      -- The condition and the tree do not mention the status.
      rw [hr.ok, (judged s filePath source { r with status := status }).ok]
      rfl
    · intro hs u hu d hd hdanger
      obtain ⟨hno, root, -, rfl⟩ := (hr.ok u).1 hu
      exact hno (.inl ⟨hs, d, hd, hdanger⟩)

/-- A run with a warning that was ended by a signal, but wrote an empty tree before. -/
def endedRun : Run :=
  ⟨none, "\x7b\x7d".toUTF8.data.toList, "<stdin>:1:2: warning: w\n".toUTF8.data.toList⟩

theorem parse_outcome_ended :
    ∃ u, parse { strict := true } "a.c" "" (.ok endedRun) = .ok u ∧
      u.diagnostics = [⟨"a.c", 1, 2, .warning, "w"⟩] ∧ ∀ d ∈ u.diagnostics, ¬ ReportsError d := by
  have hu : (parse { strict := true } "a.c" "" (.ok endedRun)).toOption.map (·.diagnostics) =
      some [⟨"a.c", 1, 2, .warning, "w"⟩] := by
    decide +kernel
  cases hparse : parse { strict := true } "a.c" "" (.ok endedRun) with
  | error e => simp [hparse, Except.toOption] at hu
  | ok u =>
    have hds : u.diagnostics = [⟨"a.c", 1, 2, .warning, "w"⟩] := by
      simpa [hparse, Except.toOption] using hu
    obtain ⟨-, -, -, hstrict⟩ := (parse_outcome { strict := true } "a.c" "").2 endedRun
    exact ⟨u, rfl, hds, hstrict rfl u hparse⟩

end CSymbols.Compiler

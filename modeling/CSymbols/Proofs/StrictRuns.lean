import CSymbols.Proofs.RunJudgement
import CSymbols.Proofs.ShortestHeader

/-! Runs under strict settings. Only the lines of the error output that read as diagnostics count as
errors: a run that fails in any other way still makes a unit, if it wrote a tree. -/
namespace CSymbols.Compiler
open Diagnostic (FirstHeader IsPosition)
open Text.Utf8 (Encodes)

/-- The first header of a line is that of an error, fatal or not, at a position. -/
def ErrorLine (line : List Char) : Prop :=
  ∃ file header rest, FirstHeader line file header rest ∧ (∃ n, IsPosition header.line n) ∧
    (∃ n, IsPosition header.column n) ∧ (header.severity = .error ∨ header.severity = .fatal)

/-- A line of the error output reads as an error. -/
def ShowsError (r : Run) : Prop :=
  ∃ line ∈ Text.lines (Text.Utf8.lossyText r.errors).toList, ErrorLine line

/-- The output is a text that opens an object and is the document of a tree. -/
def WroteTree (r : Run) : Prop :=
  ∃ document root, Encodes document r.output ∧ OpensObject document ∧
    Tree.parse? document = some root

theorem errorLine_iff {line : List Char} :
    ErrorLine line ↔ ∃ d, Diagnostic.ofLine? line = some d ∧ ReportsError d :=
  (Diagnostic.exists_ofLine?_iff line fun severity => severity = .error ∨ severity = .fatal).symm

theorem reportsError_relabel {filePath : String} {d : Diagnostic} :
    ReportsError (relabel filePath d) ↔ ReportsError d := by
  unfold ReportsError
  rw [(relabelled_relabel filePath d).severity]

/-- The path that stands in for standard input does not decide whether there is an error. -/
theorem showsError_iff (filePath : String) {r : Run} :
    ShowsError r ↔ ∃ d ∈ diagnostics filePath r, ReportsError d := by
  unfold ShowsError diagnostics
  simp only [List.mem_map, exists_exists_and_eq_and, reportsError_relabel,
    Diagnostic.mem_parse_iff, errorLine_iff]
  constructor
  · intro ⟨line, hline, d, hd, herror⟩
    exact ⟨d, ⟨line, hline, hd⟩, herror⟩
  · intro ⟨d, ⟨line, hline, hd⟩, herror⟩
    exact ⟨line, hline, d, hd, herror⟩

/-- Under strict settings a run makes a unit just if no line reads as an error and there is a tree;
how the run ended does not matter. -/
theorem exists_unit_iff {s : CompilerSettings} (hs : s.strict) (filePath source : String)
    (r : Run) :
    (∃ u, parse s filePath source (.ok r) = .ok u) ↔ ¬ ShowsError r ∧ WroteTree r := by
  have hr := judged s filePath source r
  constructor
  · intro ⟨u, hu⟩
    obtain ⟨hkept, root, ⟨document, hd, hroot⟩, -⟩ := (hr.ok u).1 hu
    have hquiet : ¬ ShowsError r := by
      intro herror
      exact hkept (.inl ⟨hs, (showsError_iff filePath).1 herror⟩)
    have hopens : OpensObject document := by
      by_contra hno
      exact hkept (.inr ⟨document, hd, hno⟩)
    exact ⟨hquiet, document, root, hd, hopens, hroot⟩
  · intro ⟨hquiet, document, root, hd, hopens, hroot⟩
    have hkept : ¬ GivenUp s filePath r := by
      intro hgiven
      rcases hgiven with ⟨-, herror⟩ | ⟨document', hd', hno⟩
      · exact hquiet ((showsError_iff filePath).2 herror)
      · rw [hd'.unique hd] at hno
        exact hno hopens
    exact ⟨_, (hr.ok _).2 ⟨hkept, root, ⟨document, hd, hroot⟩, rfl⟩⟩

/-- Under strict settings a unit stands for a run that succeeded, except for the failed runs that
wrote a tree and have no line that reads as an error. -/
theorem unit_succeeded_iff {s : CompilerSettings} (hs : s.strict) (filePath source : String)
    (outcome : Except String Run) :
    (∀ u, parse s filePath source outcome = .ok u → ∃ r, outcome = .ok r ∧ r.status = some 0) ↔
      ∀ r, outcome = .ok r → r.status = some 0 ∨ ShowsError r ∨ ¬ WroteTree r := by
  cases outcome with
  | error reason => simp [parse]
  | ok r =>
    have hunit := exists_unit_iff hs filePath source r
    simp only [Except.ok.injEq, exists_eq_left', forall_eq']
    constructor
    · intro hsucceeded
      by_contra hnone
      obtain ⟨hstatus, hquiet, hwrote⟩ : r.status ≠ some 0 ∧ ¬ ShowsError r ∧ WroteTree r := by
        simpa using hnone
      obtain ⟨u, hu⟩ := hunit.2 ⟨hquiet, hwrote⟩
      exact hstatus (hsucceeded u hu)
    · intro hcases u hu
      obtain ⟨hquiet, hwrote⟩ := hunit.1 ⟨u, hu⟩
      rcases hcases with hstatus | herror | hno
      · exact hstatus
      · exact absurd herror hquiet
      · exact absurd hwrote hno

/-- A run that wrote the tree of a unit without declarations. -/
def unitRun (status : Option Int) (errors : String) : Run :=
  ⟨status, "\x7b\"kind\":\"TranslationUnitDecl\"\x7d".toUTF8.data.toList,
    errors.toUTF8.data.toList⟩

def shownRun : Run := unitRun (some 1) "<stdin>:1:2: error: e\n"

theorem shownRun_makes_no_unit :
    ShowsError shownRun ∧ ∀ u, parse { strict := true } "a.c" "" (.ok shownRun) ≠ .ok u := by
  have hany : (diagnostics "a.c" shownRun).any Diagnostic.isError := by decide +kernel
  have hshown : ShowsError shownRun := by
    rw [showsError_iff "a.c"]
    simpa only [List.any_eq_true, isError_iff] using hany
  refine ⟨hshown, ?_⟩
  intro u hu
  have hcases : ∀ r, Except.ok shownRun = Except.ok (ε := String) r →
      r.status = some 0 ∨ ShowsError r ∨ ¬ WroteTree r := by
    intro r hr
    cases hr
    exact .inr (.inl hshown)
  obtain ⟨r, hr, hstatus⟩ :=
    (unit_succeeded_iff (s := { strict := true }) rfl "a.c" "" (.ok shownRun)).2 hcases u hu
  cases hr
  exact absurd hstatus (by decide)

/-- An error at no file, an error whose column is not shown, and a crash without a word. -/
def failedRuns : List Run :=
  [unitRun (some 1) "error: unable to create target\n",
    unitRun (some 1) "<stdin>:1: error: e\n", unitRun none ""]

theorem failedRuns_make_units :
    failedRuns.map (·.status) = [some 1, some 1, none] ∧
      ∀ r ∈ failedRuns, ∃ u, parse { strict := true } "a.c" "int x;" (.ok r) = .ok u := by
  have hall : ∀ r ∈ failedRuns,
      (parse { strict := true } "a.c" "int x;" (.ok r)).toOption.isSome := by
    decide +kernel
  refine ⟨rfl, ?_⟩
  intro r hr
  have hsome := hall r hr
  cases hparse : parse { strict := true } "a.c" "int x;" (.ok r) with
  | error e => simp [hparse, Except.toOption] at hsome
  | ok u => exact ⟨u, rfl⟩

end CSymbols.Compiler

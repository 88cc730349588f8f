import CSymbols.Diagnostic
import CSymbols.Remark
import CSymbols.Report
import CSymbols.Tree.Document

/-! Source units: a syntax tree with the text that it was made of. -/
namespace CSymbols

structure SourceUnit where
  filePath : String
  source : String
  /-- The name that the tree has for the file of the source itself. -/
  mainFile : String
  root : Tree.Node
  /-- What the compiler said although it made a tree. -/
  diagnostics : List Diagnostic

/-- Why there is no source unit. -/
inductive ParseError where
  /-- The compiler could not be run. -/
  | launch (command reason : String)
  /-- The compiler made no tree; the status is missing if it did not exit by itself. -/
  | failed (status : Option Int) (diagnostics : List Diagnostic)
  /-- What the compiler made is not a tree. -/
  | invalidTree (reason : String)
  deriving DecidableEq, Repr

namespace ParseError

def diagnostics : ParseError → List Diagnostic
  | failed _ ds => ds
  | _ => []

def statusText : Option Int → String
  | none => ""
  | some (.ofNat n) => " with exit status " ++ Text.natText n
  | some (.negSucc n) => " with exit status -" ++ Text.natText (n + 1)

def message : ParseError → String
  | launch command reason => "failed to launch " ++ command ++ ": " ++ reason
  | failed status ds =>
    let errors := ds.filter Diagnostic.isError
    "parse failed" ++ statusText status ++ " (" ++ Text.natText errors.length ++ " error(s))" ++
      (match errors.head? with
        | none => ""
        | some first => ": " ++ first.text)
  | invalidTree reason => "compiler produced an unusable AST: " ++ reason

/-- What is wrong with a document is not spelled out; this mark stands for it. -/
def unspecified : String := "<json>"

end ParseError

namespace SourceUnit

/-- The unit of a source and the document that describes its tree. -/
def ofDocument (filePath source mainFile document : String) :
    Except ParseError SourceUnit :=
  match Tree.parse? document with
  | none => .error (.invalidTree ParseError.unspecified)
  | some root => .ok ⟨filePath, source, mainFile, root, []⟩

def occurrences (u : SourceUnit) : Except Spelling.Fault (List Occurrence) :=
  Occurrence.ofTree u.mainFile u.root

/-- The functions and variables that the unit declares. -/
def report (u : SourceUnit) : Except Spelling.Fault Report :=
  u.occurrences.map Report.ofOccurrences

def comments (u : SourceUnit) : List Remark := Remark.comments u.source

def directives (u : SourceUnit) : List Remark := Remark.directives u.source

end SourceUnit

/-- The report on a unit; without one it is empty. -/
def Report.ofUnit : Option SourceUnit → Except Spelling.Fault Report
  | none => .ok .empty
  | some u => u.report

/-- Something that makes units of paths and sources, and may remember what it did. -/
abbrev Provider (σ : Type) := String → String → StateM σ (Except ParseError SourceUnit)

end CSymbols

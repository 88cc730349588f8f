import CSymbols.Path
import CSymbols.Settings.Basic
import CSymbols.Text.Utf8
import CSymbols.SourceUnit

/-! Running a compiler on a source and judging what it made. -/
namespace CSymbols.Compiler

/-- The name of the main file in a tree that was made from standard input. -/
def standardInput : String := "<stdin>"

/-- The arguments for one run. The source comes from standard input, so that the directory of the
file is named for the files that it includes. -/
def arguments (s : CompilerSettings) (filePath : String) : List String :=
  ["-x", s.language, "-fsyntax-only", "-fno-color-diagnostics", "-Xclang", "-ast-dump=json"] ++
    (s.standard.map fun standard => "-std=" ++ standard).toList ++
    (match Path.parent? filePath with
      | none | some "" => []
      | some directory => ["-I", directory]) ++
    s.includePaths.flatMap (fun path => ["-I", path]) ++ s.extraFlags ++ ["-"]

/-- A run of a compiler that came to an end. -/
structure Run where
  /-- Missing if a signal ended the run. -/
  status : Option Int
  output : List UInt8
  errors : List UInt8
  deriving DecidableEq, Repr

/-- Diagnostics of standard input are about the file. -/
def relabel (filePath : String) (d : Diagnostic) : Diagnostic :=
  if d.file = standardInput then { d with file := filePath } else d

/-- The diagnostics of a run. -/
def diagnostics (filePath : String) (r : Run) : List Diagnostic :=
  (Diagnostic.parse (Text.Utf8.lossyText r.errors)).map (relabel filePath)

/-- Whether a text can be a document: whether its first character that is not blank opens an
object. -/
def looksLikeTree (document : String) : Bool :=
  (Text.trimStart document.toList).head? == some '\x7b'

/-- The unit that a run made. The exit status alone decides nothing: the tree of a source with
errors is used as far as it goes, unless the settings are strict. -/
def judge (s : CompilerSettings) (filePath source : String) (r : Run) :
    Except ParseError SourceUnit :=
  let ds := diagnostics filePath r
  if s.strict && ds.any Diagnostic.isError then .error (.failed r.status ds)
  else
    match Text.Utf8.text? r.output with
    | .error fault => .error (.invalidTree ("AST dump is not valid UTF-8: " ++ fault.message))
    | .ok document =>
      if !looksLikeTree document then .error (.failed r.status ds)
      else
        (SourceUnit.ofDocument filePath source standardInput document).map fun u =>
          { u with diagnostics := ds }

/-- The unit of a source, given how the compiler's run came out: why there was none, or the run. -/
def parse (s : CompilerSettings) (filePath source : String) :
    Except String Run → Except ParseError SourceUnit
  | .error reason => .error (.launch s.command reason)
  | .ok r => judge s filePath source r

end CSymbols.Compiler

import CSymbols.SourceUnit

/-! Sessions: the source unit that was parsed last, for any number of questions. -/
namespace CSymbols

structure Session where
  current : Option SourceUnit := none

/-- What a successful parse answers. -/
structure ParseOutcome where
  filePath : String
  diagnostics : List Diagnostic
  deriving DecidableEq, Repr

namespace Session

/-- Makes a parsed unit the current one. A parse that failed changes nothing. -/
def install (s : Session) (filePath : String) :
    Except ParseError SourceUnit → Except ParseError ParseOutcome × Session
  | .error e => (.error e, s)
  | .ok u => (.ok ⟨filePath, u.diagnostics⟩, ⟨some u⟩)

/-- Parses a source and makes it the current unit. -/
def parse {σ : Type} (provider : Provider σ) (s : Session) (filePath source : String) :
    StateM σ (Except ParseError ParseOutcome × Session) := do
  return s.install filePath (← provider filePath source)

def report (s : Session) : Except Spelling.Fault Report := Report.ofUnit s.current

def comments (s : Session) : List Remark := (s.current.map SourceUnit.comments).getD []

def directives (s : Session) : List Remark := (s.current.map SourceUnit.directives).getD []

def isReady (s : Session) : Bool := s.current.isSome

def currentFile (s : Session) : Option String := s.current.map SourceUnit.filePath

end Session
end CSymbols

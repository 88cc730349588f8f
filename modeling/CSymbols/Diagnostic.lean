import CSymbols.Text.Decimal
import CSymbols.Text.DecimalDigit
import CSymbols.Text.Lines

/-! Diagnostics: the lines `file:line:column: severity: message` of a compiler's error output. -/
namespace CSymbols

inductive Severity where
  | fatal
  | error
  | warning
  | note
  deriving DecidableEq, Repr

namespace Severity

/-- The word that a compiler prints. -/
def label : Severity → String
  | fatal => "fatal error"
  | error => "error"
  | warning => "warning"
  | note => "note"

/-- The one word that names the severity. -/
def name : Severity → String
  | fatal => "fatal"
  | error => "error"
  | warning => "warning"
  | note => "note"

def all : List Severity := [fatal, error, warning, note]

def isError (s : Severity) : Bool := s == fatal || s == error

end Severity

/-- One message of a compiler. Lines and columns count from one, as it prints them. -/
structure Diagnostic where
  file : String
  line : Nat
  column : Nat
  severity : Severity
  message : String
  deriving DecidableEq, Repr

namespace Diagnostic

def isError (d : Diagnostic) : Bool := d.severity.isError

/-- The line that a compiler prints. -/
def text (d : Diagnostic) : String :=
  d.file ++ ":" ++ Text.natText d.line ++ ":" ++ Text.natText d.column ++ ": " ++
    d.severity.label ++ ": " ++ d.message

/-- The text behind a given beginning. -/
def behind? : List Char → List Char → Option (List Char)
  | [], cs => some cs
  | _ :: _, [] => none
  | b :: bs, c :: cs => if b == c then behind? bs cs else none

/-- What stands between the file and the message. -/
structure Header where
  line : List Char
  column : List Char
  severity : Severity
  deriving DecidableEq, Repr

/-- One or more digits and a colon. -/
def number? (cs : List Char) : Option (List Char × List Char) :=
  let digits := cs.takeWhile Text.isDecimalDigit
  match cs.dropWhile Text.isDecimalDigit with
  | ':' :: rest => if digits == [] then none else some (digits, rest)
  | _ => none

/-- A severity and a colon. -/
def severity? (cs : List Char) : Option (Severity × List Char) :=
  Severity.all.findSome? fun s => (behind? (s.label.toList ++ [':']) cs).map fun rest => (s, rest)

/-- The header at the front of a text, from the colon behind the file on, and the text behind it. -/
def header? : List Char → Option (Header × List Char)
  | ':' :: cs => do
    let (line, cs) ← number? cs
    let (column, cs) ← number? cs
    let (severity, rest) ← severity? (Text.trimStart cs)
    return (⟨line, column, severity⟩, rest)
  | _ => none

/-- The first header of a line, with the texts before and behind it. -/
def split? : List Char → Option (List Char × Header × List Char)
  | [] => none
  | c :: cs =>
    match header? (c :: cs) with
    | some (h, rest) => some ([], h, rest)
    | none => (split? cs).map fun r => (c :: r.1, r.2)

/-- A number below 2^32 in ASCII digits. -/
def position? (digits : List Char) : Option Nat :=
  (Text.digitsValue? 10 digits).filter (· < 4294967296)

/-- The diagnostic of a line. The first header counts even if its numbers are no positions. -/
def ofLine? (line : List Char) : Option Diagnostic := do
  let (file, header, rest) ← split? line
  let lineNumber ← position? header.line
  let column ← position? header.column
  return ⟨String.ofList file, lineNumber, column, header.severity,
    String.ofList (Text.trimStart rest)⟩

/-- All diagnostics of an output. Lines of any other form are passed over. -/
def parse (output : String) : List Diagnostic :=
  (Text.lines output.toList).filterMap ofLine?

end Diagnostic
end CSymbols

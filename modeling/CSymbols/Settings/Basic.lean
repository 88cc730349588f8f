import CSymbols.Text.Blank
import CSymbols.Text.Decimal

/-! Settings of the compiler, of the gateway and of the log, and their normal form. -/
namespace CSymbols

inductive LogLevel where
  | error
  | warn
  | info
  | debug
  | trace
  deriving DecidableEq, Repr

namespace LogLevel

def name : LogLevel → String
  | error => "error"
  | warn => "warn"
  | info => "info"
  | debug => "debug"
  | trace => "trace"

def ofName? (name : String) : Option LogLevel :=
  [error, warn, info, debug, trace].find? fun l => l.name == name

end LogLevel

/-- How the compiler is run. -/
structure CompilerSettings where
  command : String := "clang"
  /-- The language that the compiler is told. -/
  language : String := "c++"
  /-- The language standard, if the compiler is told one. -/
  standard : Option String := none
  includePaths : List String := []
  extraFlags : List String := []
  /-- Whether errors of the compiler fail the parse, instead of a report on the partial tree. -/
  strict : Bool := false
  deriving DecidableEq, Repr

/-- Where the gateway listens. -/
structure ServerSettings where
  host : String := "127.0.0.1"
  port : Nat := 25333
  deriving DecidableEq, Repr

structure Settings where
  compiler : CompilerSettings := {}
  server : ServerSettings := {}
  logLevel : LogLevel := .info
  deriving DecidableEq, Repr

/-- A text without blank margins, or the default if nothing is left. -/
def orDefault (default text : String) : String :=
  let text := Text.trimmed text
  if text == "" then default else text

/-- Texts without blank margins; those of which nothing is left are dropped. -/
def nonBlank (texts : List String) : List String := (texts.map Text.trimmed).filter (· != "")

/-- Lower case for ASCII letters; others stay. -/
def lowered (text : String) : String := String.ofList (text.toList.map Char.toLower)

def CompilerSettings.normal (s : CompilerSettings) : CompilerSettings where
  command := orDefault ({} : CompilerSettings).command s.command
  language := orDefault ({} : CompilerSettings).language (lowered s.language)
  standard := (s.standard.map Text.trimmed).filter (· != "")
  includePaths := nonBlank s.includePaths
  extraFlags := nonBlank s.extraFlags
  strict := s.strict

namespace ServerSettings

def normal (s : ServerSettings) : ServerSettings :=
  { s with host := orDefault ({} : ServerSettings).host s.host }

def address (s : ServerSettings) : String := s.host ++ ":" ++ Text.natText s.port

end ServerSettings

def Settings.normal (s : Settings) : Settings :=
  { s with compiler := s.compiler.normal, server := s.server.normal }

end CSymbols

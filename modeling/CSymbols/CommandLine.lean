import CSymbols.Batch
import CSymbols.Gateway.Service
import CSymbols.Machine
import CSymbols.Settings.File

/-! The command line: reports on the files that it names, or the gateway if it names none. -/
namespace CSymbols.CommandLine

structure Options where
  files : List String := []
  config : Option String := none
  verbose : Bool := false
  logFile : Option String := none
  host : Option String := none
  port : Option Nat := none
  deriving DecidableEq, Repr

/-- Why arguments are not acted upon. -/
inductive Stop where
  /-- An argument is unknown, comes twice, or lacks a value that fits. -/
  | misuse
  | version
  | help
  deriving DecidableEq, Repr

/-- A number that a sign may precede, in 16 bits. -/
def port? (text : String) : Option Nat :=
  match text.toList with
  | '+' :: digits => (Text.digitsValue? 10 digits).filter (· < 65536)
  | '-' :: digits => (Text.digitsValue? 10 digits).filter (· == 0)
  | digits => (Text.digitsValue? 10 digits).filter (· < 65536)

def nonEmpty? (text : String) : Option String := if text == "" then none else some text

/-- Sets something that may be set once only. -/
def setOnce {α : Type} (old value : Option α) (set : Option α → Options) : Except Stop Options :=
  match old, value with
  | none, some v => .ok (set (some v))
  | _, _ => .error .misuse

/-- The long options that take a value, and what setting one does. -/
def setter? (o : Options) : String → Option (String → Except Stop Options)
  | "config" => some fun v => setOnce o.config (nonEmpty? v) fun v => { o with config := v }
  | "log-file" => some fun v => setOnce o.logFile (nonEmpty? v) fun v => { o with logFile := v }
  | "host" => some fun v => setOnce o.host (some v) fun v => { o with host := v }
  | "port" => some fun v => setOnce o.port (port? v) fun v => { o with port := v }
  | _ => none

/-- The options that take no value. -/
inductive Flag where
  | verbose
  | version
  | help

def Flag.ofLetter? : Char → Option Flag
  | 'v' => some .verbose
  | 'V' => some .version
  | 'h' => some .help
  | _ => none

def Flag.ofName? : String → Option Flag
  | "verbose" => some .verbose
  | "version" => some .version
  | "help" => some .help
  | _ => none

def Flag.set (o : Options) : Option Flag → Except Stop Options
  | some .verbose => if o.verbose then .error .misuse else .ok { o with verbose := true }
  | some .version => .error .version
  | some .help => .error .help
  | none => .error .misuse

/-- What an argument is by its form. -/
inductive Form where
  | file
  /-- All that follows are files. -/
  | separator
  /-- A long option, with the value that is attached to it. -/
  | long (name : String) (value : Option String)
  /-- A group of one-letter options. -/
  | short (letters : List Char)

def formOf (argument : String) : Form :=
  match argument.toList with
  | ['-', '-'] => .separator
  | '-' :: '-' :: cs =>
    let name := String.ofList (cs.takeWhile (· != '='))
    match cs.dropWhile (· != '=') with
    | '=' :: value => .long name (some (String.ofList value))
    | _ => .long name none
  | '-' :: c :: cs => .short (c :: cs)
  | _ => .file

def isFile (argument : String) : Bool :=
  match formOf argument with
  | .file => true
  | _ => false

/-- Takes up the arguments in order. The first that is at fault, or asks for the version or for
help, decides. -/
def take (o : Options) : List String → Except Stop Options
  | [] => .ok o
  | argument :: rest =>
    match formOf argument with
    | .file => take { o with files := o.files ++ [argument] } rest
    | .separator => .ok { o with files := o.files ++ rest }
    | .short letters =>
      match letters.foldlM (fun o c => Flag.set o (Flag.ofLetter? c)) o with
      | .error stop => .error stop
      | .ok o => take o rest
    | .long name value =>
      match setter? o name, value, rest with
      | some set, some value, rest =>
        match set value with
        | .error stop => .error stop
        | .ok o => take o rest
      | some set, none, value :: rest =>
        if isFile value then
          match set value with
          | .error stop => .error stop
          | .ok o => take o rest
        else .error .misuse
      | some _, none, [] => .error .misuse
      | none, some _, _ => .error .misuse
      | none, none, rest =>
        match Flag.set o (Flag.ofName? name) with
        | .error stop => .error stop
        | .ok o => take o rest

/-- The options that some arguments give. -/
def parse (arguments : List String) : Except Stop Options := take {} arguments

/-- How the program ends: its exit status, what it prints, and what it complains about. -/
structure Outcome where
  status : Nat
  output : String := ""
  complaint : String := ""
  deriving DecidableEq, Repr

/-- What the program does in the end. -/
inductive Action where
  | finish (outcome : Outcome)
  /-- Serve the gateway at the address of the settings. -/
  | serve (settings : Settings)

/-- The program was aborted. -/
def aborted : Outcome := ⟨101, "", "aborted\n"⟩

/-- The gateway could not listen at its address. -/
def notBound : Outcome := ⟨1, "", "cannot listen\n"⟩

def usage : String :=
  "Usage: cparser [--config PATH] [--verbose] [--log-file PATH] [--host HOST] [--port PORT] " ++
    "[FILES]...\n"

def Stop.outcome : Stop → Outcome
  | misuse => ⟨2, "", usage⟩
  | version => ⟨0, Gateway.programName ++ " " ++ Gateway.version ++ "\n", ""⟩
  | help => ⟨0, usage, ""⟩

/-- The path of the log: the named one, with a name of its own if that is only a directory. -/
def logPath (path : String) : String :=
  let directory := match Path.parent? path with
    | none | some "" => "."
    | some directory => directory
  Path.join directory ((Path.fileName? path).getD "cparser.log")

/-- The machine once the log has been opened; `none` if it cannot be. -/
def openLog (m : Machine) : Option String → Option Machine
  | none => some m
  | some path => (m.openLog? (logPath path)).map fun files => { m with files }

/-- Reports on the named files. -/
def report (m : Machine) (s : CompilerSettings) (files : List String) : Outcome :=
  match (Batch.extract m.files (m.provider s) files).run [] with
  | .error _ => aborted
  | .ok (reports, _) =>
    match Batch.render files reports with
    | some text => ⟨0, text ++ "\n", ""⟩
    | none => ⟨1, "", ""⟩

/-- What the settings become by the options. -/
def Options.override (o : Options) (s : Settings) : Settings :=
  { s with server := ⟨o.host.getD s.server.host, o.port.getD s.server.port⟩ }

/-- Acts upon arguments, in a working directory. -/
def run (m : Machine) (workingDirectory : String) (arguments : List String) : Action :=
  match parse arguments with
  | .error stop => .finish stop.outcome
  | .ok options =>
    match Settings.load m.files options.config workingDirectory with
    | .error e => .finish ⟨1, "", Gateway.programName ++ ": " ++ e.message ++ "\n"⟩
    | .ok (settings, _) =>
      match openLog m options.logFile with
      | none => .finish aborted
      | some m =>
        if options.files.isEmpty then .serve (options.override settings)
        else .finish (report m settings.compiler options.files)

end CSymbols.CommandLine

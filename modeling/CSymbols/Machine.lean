import CSymbols.Compiler
import CSymbols.FileSystem

/-! The machine that the program runs on: its files, and the programs that can be started. -/
namespace CSymbols

/-- Why a program does not start. -/
inductive LaunchFault where
  | notFound
  | notPermitted
  | notDirectory
  | tooLong
  /-- The command or an argument holds a zero byte. -/
  | zeroByte
  deriving DecidableEq, Repr

def LaunchFault.reason : LaunchFault → String
  | notFound => "command not found"
  | notPermitted => "Permission denied (os error 13)"
  | notDirectory => "Not a directory (os error 20)"
  | tooLong => "File name too long (os error 36)"
  | zeroByte => "nul byte found in provided data"

/-- A start of a program. -/
structure Start where
  program : String
  arguments : List String
  input : String
  deriving DecidableEq, Repr

structure Machine where
  files : FileSystem
  /-- The files once a log has been opened at a path; `none` if that cannot be. -/
  openLog? : String → Option FileSystem
  /-- The program that a command names among some files, if it can be started: a name of its own,
  and how its starts come out one after the other. The last outcome repeats. -/
  program? : FileSystem → String → Option (String × List Compiler.Run)

namespace Machine

/-- Why a command that names no program does not start. One without a slash is looked up in
directories of which only themselves and the ones above are known. -/
def refusal (m : Machine) (command : String) : LaunchFault :=
  if !command.toList.contains '/' then
    if command == "." || command == ".." then .notPermitted else .notFound
  else
    match m.files.lookup command with
    | .file _ | .directory | .unreadable _ => .notPermitted
    | .missing | .zeroByte => .notFound
    | .notDirectory => .notDirectory
    | .tooLong => .tooLong

/-- How the start with the given number comes out, counted from zero. -/
def outcome? (runs : List Compiler.Run) (n : Nat) : Option Compiler.Run :=
  runs[n]?.or runs.getLast?

/-- Starts a command, given the starts before. -/
def launch (m : Machine) (command : String) (arguments : List String) (input : String) :
    StateM (List Start) (Except LaunchFault Compiler.Run) := do
  if (command :: arguments).any (·.toList.contains '\x00') then return .error .zeroByte
  match m.program? m.files command with
  | none => return .error (m.refusal command)
  | some (program, runs) =>
    let before ← get
    match outcome? runs (before.countP (·.program == program)) with
    | none => return .error .notFound
    | some run =>
      set (before ++ [⟨program, arguments, input⟩])
      return .ok run

/-- Makes units by the compiler that the settings name. -/
def provider (m : Machine) (s : CompilerSettings) : Provider (List Start) :=
  fun filePath source => do
    let run ← m.launch s.command (Compiler.arguments s filePath) source
    return Compiler.parse s filePath source (run.mapError LaunchFault.reason)

end Machine
end CSymbols

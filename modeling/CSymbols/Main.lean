import CSymbols.CommandLine

/-! The program. It starts no other one: the tree that a compiler made is read from standard input,
whichever compiler the settings name. -/
namespace CSymbols.Main

/-- All that a stream holds. -/
partial def readAll (stream : IO.FS.Stream) (sofar : List UInt8) : IO (List UInt8) := do
  let chunk ← stream.read 65536
  if chunk.isEmpty then return sofar else readAll stream (sofar ++ chunk.toList)

/-- What a path names, found by reading it. -/
def look (path : String) : IO Lookup := do
  try
    return .file (← IO.FS.readBinFile path).toList
  catch
    | .inappropriateType .. => return .directory
    | .permissionDenied .. => return .unreadable LaunchFault.notPermitted.reason
    | _ => return .missing

/-- The paths that the options make the program look at. -/
def pathsOf (o : CommandLine.Options) (workingDirectory : String) : List String :=
  o.files ++ o.config.toList ++ Settings.candidatesAbove workingDirectory.toList

/-- What some paths name. -/
def survey (paths : List String) : IO FileSystem := do
  let known ← paths.mapM fun path => return (path, ← look path)
  return ⟨fun path => (known.lookup path).getD .missing⟩

/-- Opens a file for writing at its end, and tells whether that worked. -/
def openFile (path : String) : IO Bool := do
  try
    let _ ← IO.FS.Handle.mk path .append
    return true
  catch _ => return false

/-- Opens a log; if that fails, its directory is made first. -/
def openLog (path : String) : IO Bool := do
  if ← openFile path then return true
  try
    IO.FS.createDirAll ((Path.parent? path).getD ".")
    openFile path
  catch _ => return false

end CSymbols.Main

open CSymbols in
def main (arguments : List String) : IO UInt32 := do
  let workingDirectory := (← IO.currentDir).toString
  let options := (CommandLine.parse arguments).toOption
  let paths := (options.map (Main.pathsOf · workingDirectory)).getD []
  let files ← Main.survey paths
  let log := do
    let o ← options
    if (Settings.load files o.config workingDirectory).isOk then o.logFile else none
  let isOpen ← (log.map fun path => Main.openLog (CommandLine.logPath path)).getD (pure false)
  let later ← Main.survey paths
  let reports := options.any fun o => !o.files.isEmpty
  let output ← if reports then Main.readAll (← IO.getStdin) [] else pure []
  let machine : Machine :=
    { files
      openLog? := fun _ => if isOpen then some later else none
      program? := fun _ command => some (command, [⟨some 0, output, []⟩]) }
  let outcome := match CommandLine.run machine workingDirectory arguments with
    | .finish outcome => outcome
    | .serve _ => CommandLine.notBound
  IO.print outcome.output
  IO.eprint outcome.complaint
  return outcome.status.toUInt32

import CSymbols.FileSystem
import CSymbols.Path

/-! Files and directories as a tree, and what opening a file for writing adds to it. -/
namespace CSymbols

/-- Files and directories: the names that lead to each from the working directory, and the bytes of
the files. Directories on the way to an entry are there without an entry of their own. -/
structure FileTree where
  entries : List (List String × Option (List UInt8))

namespace FileTree

/-- What stands at the end of some names. -/
def at? (t : FileTree) (names : List String) : Lookup :=
  match t.entries.find? (·.1 == names) with
  | some (_, some bytes) => .file bytes
  | some (_, none) => .directory
  | none => if t.entries.any (names.isPrefixOf ·.1) then .directory else .missing

/-- The names of the directory above. Above the working directory they begin with dots, below the
root with a slash; nothing is there at first. -/
def above (names : List String) : List String :=
  match names.getLast? with
  | none => [".."]
  | some ".." => names ++ [".."]
  | some "/" => names
  | some _ => names.dropLast

/-- Follows the components of a path from a directory to the directory at its end. If there is none,
the answer is what the path names instead. -/
def follow (t : FileTree) (here : List String) : List String → Except Lookup (List String)
  | [] => .ok here
  | name :: rest =>
    if name == "" || name == "." then follow t here rest
    else if name == ".." then follow t (above here) rest
    else if 255 < name.utf8ByteSize then .error .tooLong
    else
      match t.at? (here ++ [name]) with
      | .directory => follow t (here ++ [name]) rest
      | .file bytes => .error (if rest.isEmpty then .file bytes else .notDirectory)
      | other => .error other

/-- The directory at which a path starts. -/
def origin (path : String) : List String := if path.toList.head? == some '/' then ["/"] else []

/-- The directory that a path names, or what it names instead. -/
def resolve (t : FileTree) (path : String) : Except Lookup (List String) :=
  if path == "" then .error .missing
  else if path.toList.contains '\x00' then .error .zeroByte
  else if 4096 ≤ path.utf8ByteSize then .error .tooLong
  else t.follow (origin path) (path.splitOn "/")

/-- What a path names. -/
def lookup (t : FileTree) (path : String) : Lookup :=
  match t.resolve path with
  | .ok _ => .directory
  | .error other => other

def fileSystem (t : FileTree) : FileSystem := ⟨t.lookup⟩

/-- The names of an entry that is to be made at a path at which nothing is: those of its directory,
which has to be there, and its own. -/
def fresh? (t : FileTree) (path : String) : Option (List String) :=
  let names := path.splitOn "/"
  match t.follow (origin path) names.dropLast, names.getLast? with
  | .ok here, some name => some (here ++ [name])
  | _, _ => none

/-- How making a directory comes out. -/
inductive Making where
  | made (t : FileTree)
  /-- It has been there before. -/
  | present
  /-- The directory above is missing. -/
  | orphan
  | refused

def makeDirectory (t : FileTree) (path : String) : Making :=
  match t.resolve path with
  | .ok _ => .present
  | .error .missing =>
    match t.fresh? path with
    | some names => .made ⟨t.entries ++ [(names, none)]⟩
    | none => .orphan
  | .error _ => .refused

/-- The tree with a directory and all those above it. -/
def withDirectory? (t : FileTree) (path : List Char) : Option FileTree :=
  if path = [] then some t
  else
    match t.makeDirectory (String.ofList path) with
    | .made t => some t
    | .present => some t
    | .refused => none
    | .orphan =>
      match _h : Path.parentChars? path with
      | none => none
      | some parent =>
        (t.withDirectory? parent).bind fun t =>
          match t.makeDirectory (String.ofList path) with
          | .made t => some t
          | .present => some t
          | _ => none
  termination_by path.length
  decreasing_by exact Path.parentChars?_length _h

/-- The tree once a file has been opened for writing at its end, which makes an empty one if nothing
is there; `none` if that cannot be. -/
def openFile? (t : FileTree) (path : String) : Option FileTree :=
  match t.resolve path with
  | .ok _ => none
  | .error (.file _) => some t
  | .error .missing => (t.fresh? path).map fun names => ⟨t.entries ++ [(names, some [])]⟩
  | .error _ => none

/-- Opens a file for writing; if that fails, its directory is made first. -/
def openLog? (t : FileTree) (path : String) : Option FileTree :=
  (t.openFile? path).or
    (((Path.parentChars? path.toList).bind t.withDirectory?).bind fun t => t.openFile? path)

end FileTree
end CSymbols

import CSymbols.FileSystem
import CSymbols.Path
import CSymbols.Settings.Patch

/-! The configuration file: the nearest one above a starting point, or one that is named. -/
namespace CSymbols.Settings

def configFileName : String := "cparser.toml"

/-- The first configuration file in a directory or one above it. -/
def findAbove (fs : FileSystem) (directory : List Char) : Option String :=
  let candidate := Path.join (String.ofList directory) configFileName
  if fs.isFile candidate then some candidate
  else
    match _h : Path.parentChars? directory with
    | none => none
    | some parent => findAbove fs parent
  termination_by directory.length
  decreasing_by exact Path.parentChars?_length _h

/-- The paths at which a configuration file is looked for, from a directory upwards. -/
def candidatesAbove (directory : List Char) : List String :=
  Path.join (String.ofList directory) configFileName ::
    match _h : Path.parentChars? directory with
    | none => []
    | some parent => candidatesAbove parent
  termination_by directory.length
  decreasing_by exact Path.parentChars?_length _h

/-- The nearest configuration file. A starting point that is a file stands for its directory. -/
def findFile (fs : FileSystem) (start : String) : Option String :=
  if fs.isFile start then (Path.parentChars? start.toList).bind (findAbove fs)
  else findAbove fs start.toList

/-- The settings of a file. -/
def ofFile (fs : FileSystem) (path : String) : Except ConfigError Settings :=
  match fs.readText path with
  | .error fault => .error (.unreadable path fault.message)
  | .ok text =>
    match ofText text with
    | .ok settings => .ok settings
    | .error (.invalid _) => .error (.invalid (some path))
    | .error e => .error e

/-- The settings of the named file, or of the nearest one, or else the defaults; and the file that
they came from. -/
def load (fs : FileSystem) (explicit : Option String) (start : String) :
    Except ConfigError (Settings × Option String) :=
  match explicit.or (findFile fs start) with
  | none => .ok ({}, none)
  | some path => (ofFile fs path).map fun s => (s, some path)

end CSymbols.Settings

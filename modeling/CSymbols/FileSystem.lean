import CSymbols.Text.Utf8

/-! What the program sees of the file system: what each path names, and why a file cannot be
read. -/
namespace CSymbols

/-- What a path names. -/
inductive Lookup where
  | file (bytes : List UInt8)
  | directory
  | missing
  /-- The path goes on behind a file. -/
  | notDirectory
  /-- The path, or a name in it, is longer than any name can be. -/
  | tooLong
  /-- The path holds a zero byte, so that it is none. -/
  | zeroByte
  /-- A file that is there but cannot be read, and why. -/
  | unreadable (reason : String)
  deriving DecidableEq, Repr

/-- Why a file has no text. -/
inductive ReadFault where
  | isDirectory
  | missing
  | notDirectory
  | tooLong
  | zeroByte
  | unreadable (reason : String)
  /-- The file is not UTF-8. -/
  | notText
  deriving DecidableEq, Repr

def ReadFault.message : ReadFault → String
  | isDirectory => "Is a directory (os error 21)"
  | missing => "No such file or directory (os error 2)"
  | notDirectory => "Not a directory (os error 20)"
  | tooLong => "File name too long (os error 36)"
  | zeroByte => "file name contained an unexpected NUL byte"
  | unreadable reason => reason
  | notText => "stream did not contain valid UTF-8"

structure FileSystem where
  lookup : String → Lookup

namespace FileSystem

/-- The bytes of a file, if the path names one that can be read. -/
def bytes? (fs : FileSystem) (path : String) : Option (List UInt8) :=
  match fs.lookup path with
  | .file bytes => some bytes
  | _ => none

def isFile (fs : FileSystem) (path : String) : Bool :=
  match fs.lookup path with
  | .file _ | .unreadable _ => true
  | _ => false

/-- The text of a file. -/
def readText (fs : FileSystem) (path : String) : Except ReadFault String :=
  match fs.lookup path with
  | .file bytes =>
    match Text.Utf8.text? bytes with
    | .ok text => .ok text
    | .error _ => .error .notText
  | .directory => .error .isDirectory
  | .missing => .error .missing
  | .notDirectory => .error .notDirectory
  | .tooLong => .error .tooLong
  | .zeroByte => .error .zeroByte
  | .unreadable reason => .error (.unreadable reason)

end FileSystem

end CSymbols

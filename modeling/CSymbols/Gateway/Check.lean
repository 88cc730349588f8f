import CSymbols.Gateway.Params
import CSymbols.Url.Reference

/-! Forms of parameters. A check goes through a value and tells the first thing that is wrong with
it; of the parameters of most requests nothing else is ever looked at. -/
namespace CSymbols.Gateway

/-- How a value is read. Under members that are shared by many requests, and where one of several
forms is to be found, it is read from a copy, and an array that is too long is reported in other
words. -/
inductive Reading where
  | direct
  | copied
  deriving DecidableEq, Repr

/-- What is wrong with a value, if anything. -/
abbrev Check := Reading → Json → Except Error Unit

/-- A member of a record. -/
structure Member where
  name : String
  check : Check
  /-- Whether the member has to be there. -/
  required : Bool
  /-- Whether an array in place of the record may end before this member. -/
  droppable : Bool := false

namespace Check

def any : Check := fun _ _ => .ok ()

def text : Check := fun _ v => (textParam v).map fun _ => ()

def flag : Check
  | _, .bool _ => .ok ()
  | _, v => .error (mismatch v "a boolean")

/-- A value that may be missing. -/
def optional (check : Check) : Check
  | _, .null => .ok ()
  | r, v => check r v

/-- A whole number in some bounds, the upper one excluded. -/
def whole (kind : String) (low high : Int) : Check
  | _, .number literal =>
    match Json.Number.ofLiteral literal with
    | .whole n =>
      if low ≤ n && n < high then .ok ()
      else .error (.invalidParams
        ("invalid value: " ++ (Json.Number.whole n).description ++ ", expected " ++ kind))
    | n => .error (.invalidParams ("invalid type: " ++ n.description ++ ", expected " ++ kind))
  | _, v => .error (mismatch v kind)

/-- A whole number of 32 bits. -/
def word : Check := whole "u32" 0 4294967296

/-- A whole number of 32 bits with a sign. -/
def code : Check := whole "i32" (-2147483648) 2147483648

/-- Any number. -/
def number : Check
  | _, .number _ => .ok ()
  | _, v => .error (mismatch v "f32")

/-- An absolute address of a resource. -/
def resource : Check
  | _, .string (some s) =>
    match Url.check s with
    | .ok () => .ok ()
    | .error fault => .error (.invalidParams (fault.message ++ ": " ++ Text.quoted s))
  | _, v => .error (mismatch v "a string representing an URL")

/-- The words of a choice as an error lists them. -/
def wordsText (words : List String) : String :=
  match words.map fun w => "`" ++ w ++ "`" with
  | [a, b] => a ++ " or " ++ b
  | ws => "one of " ++ String.intercalate ", " ws

def chosen (words : List String) (word : String) : Except Error Unit :=
  if words.contains word then .ok ()
  else .error (.invalidParams
    ("unknown variant `" ++ word ++ "`, expected " ++ wordsText words))

/-- One of some words, alone or as the only key of an object that holds `null` under it. -/
def choice (words : List String) : Check
  | _, .string (some s) => chosen words s
  | _, .object members =>
    match Json.sorted members with
    | [(key, v)] => do
      chosen words (key.getD "")
      match v with
      | .null => .ok ()
      | v => .error (mismatch v "unit")
    | _ => .error (.invalidParams "invalid value: map, expected map with a single key")
  | _, v => .error (mismatch v "string or map")

/-- An array whose items all fit. -/
def list (check : Check) : Check
  | r, .array items => items.forM (check r)
  | _, v => .error (mismatch v "a sequence")

/-- An object whose keys and values all fit, taken in the order of the keys. -/
def entries (expected : String) (key value : Check) : Check
  | r, .object members =>
    checkFields (fun k v => do
      key r (.text k)
      value r v) (.object members)
  | _, v => .error (mismatch v expected)

/-- An object whose values all fit. -/
def map (value : Check) : Check := entries "a map" any value

/-- A value of one form at least. -/
def oneOf (name : String) (checks : List Check) : Check := fun _ v =>
  if checks.any fun check => (check .copied v).isOk then .ok ()
  else .error (.invalidParams ("data did not match any variant of untagged enum " ++ name))

/-- An array in place of a record: each item is the member of its place. -/
def places (lacking : Nat → Error) (r : Reading) (index : Nat) :
    List Member → List Json → Except Error Unit
  | [], _ => .ok ()
  | field :: fields, [] =>
    if field.droppable then places lacking r (index + 1) fields []
    else .error (lacking index)
  | field :: fields, v :: vs => do
    field.check r v
    places lacking r (index + 1) fields vs

/-- The number of elements, in words. -/
def elements (n : Nat) : String := Text.natText n ++ if n = 1 then " element" else " elements"

/-- What is said of an array that goes on behind the last member. -/
def overlong (length count : Nat) : Reading → Error
  | .direct => invalidLength length "fewer elements in array"
  | .copied => invalidLength length (elements count ++ " in sequence")

/-- The members of an object that some fields name; others do not count. -/
def members (fields : List Member) : Check := fun r v => do
  checkFields (fun key v =>
    match fields.find? (·.name == key) with
    | some field => field.check r v
    | none => .ok ()) v
  fields.forM fun field =>
    if field.required && (v.member? field.name).isNone then .error (missingField field.name)
    else .ok ()

/-- An object with some members, or an array of their values. -/
def record (name : String) (fields : List Member) : Check
  | r, .object ms => members fields r (.object ms)
  | r, .array items => do
    places (fun n => invalidLength n
      ("struct " ++ name ++ " with " ++ elements fields.length)) r 0 fields items
    if fields.length < items.length then throw (overlong items.length fields.length r)
  | _, v => .error (mismatch v ("struct " ++ name))

/-- An object with members of its own, and groups of members that it shares with others. The groups
are looked at one after the other when all members of its own are well. -/
def sharing (name : String) (own : List Member) (groups : List (List Member)) : Check
  | r, .object ms => do
    members own r (.object ms)
    groups.forM fun group => members group .copied (.object ms)
  | _, v => .error (mismatch v ("struct " ++ name))

/-- An object with members of its own, whose other members all fit one check. -/
def openRecord (name : String) (own : List Member) (other : Check) : Check
  | r, .object ms => do
    members own r (.object ms)
    checkFields (fun key v =>
      if own.any (·.name == key) then .ok () else other .copied v) (.object ms)
  | _, v => .error (mismatch v ("struct " ++ name))

end Check

/-- A member that has to be there. -/
def Member.need (name : String) (check : Check) : Member := ⟨name, check, true, false⟩

/-- A member that may be missing. -/
def Member.may (name : String) (check : Check) : Member := ⟨name, .optional check, false, false⟩

/-- A member that may be missing, also in an array that ends before it. -/
def Member.mayDrop (name : String) (check : Check) : Member := ⟨name, .optional check, false, true⟩

/-- A member that may be missing, but is not `null` if it is there. -/
def Member.default (name : String) (check : Check) : Member := ⟨name, check, false, true⟩

end CSymbols.Gateway

import CSymbols.Gateway.Message
import CSymbols.Json.Number
import CSymbols.Json.Writer
import CSymbols.Text.Quoted

/-! The parameters of requests, and what is said of those that do not fit. -/
namespace CSymbols.Gateway

/-- What a value is. -/
def description : Json → String
  | .null => "null"
  | .bool true => "boolean `true`"
  | .bool false => "boolean `false`"
  | .number literal => (Json.Number.ofLiteral literal).description
  | .string t => "string " ++ Text.quoted (t.getD "")
  | .array _ => "sequence"
  | .object _ => "map"

/-- Parameters that are something else than expected. -/
def mismatch (v : Json) (expected : String) : Error :=
  .invalidParams ("invalid type: " ++ description v ++ ", expected " ++ expected)

def missingField (name : String) : Error := .invalidParams ("missing field `" ++ name ++ "`")

def invalidLength (n : Nat) (expected : String) : Error :=
  .invalidParams ("invalid length " ++ Text.natText n ++ ", expected " ++ expected)

def textParam (v : Json) : Except Error String :=
  match v with
  | .string (some s) => .ok s
  | v => .error (mismatch v "a string")

/-- Goes through the members of parameters in the order of their keys. -/
def checkFields (check : String → Json → Except Error Unit) (v : Json) : Except Error Unit :=
  match v with
  | .object members => (Json.sorted members).forM fun m => check (m.1.getD "") m.2
  | _ => .ok ()

/-- The parameters of a parse. -/
structure ParseParams where
  filePath : String
  sourceText : String
  deriving DecidableEq, Repr

namespace ParseParams

/-- An object with both texts, other members not counted, or an array of the two. -/
def ofJson (v : Json) : Except Error ParseParams :=
  match v with
  | .object _ => do
    checkFields (fun key v =>
      if key == "filePath" || key == "sourceText" then (textParam v).map fun _ => () else .ok ()) v
    match (v.member? "filePath").bind Json.text?, (v.member? "sourceText").bind Json.text? with
    | some filePath, some sourceText => return ⟨filePath, sourceText⟩
    | none, _ => throw (missingField "filePath")
    | _, none => throw (missingField "sourceText")
  | .array (file :: source :: rest) => do
    let filePath ← textParam file
    let sourceText ← textParam source
    if rest.isEmpty then return ⟨filePath, sourceText⟩
    else throw (invalidLength (rest.length + 2) "fewer elements in array")
  | .array items => do
    items.forM fun v => (textParam v).map fun _ => ()
    throw (invalidLength items.length "struct ParseParams with 2 elements")
  | v => .error (mismatch v "struct ParseParams")

end ParseParams

/-- The error for parameters where there may be none. -/
def unexpectedParams (v : Json) : Error :=
  .invalidParams ("Unexpected params: " ++ v.canonical.compact)

end CSymbols.Gateway

import CSymbols.Text.Decimal

/-! JSON values. Objects keep the order and the repetitions of their members, and numbers keep the
literal they were written with. -/
namespace CSymbols

/-- A JSON value. The text of a string is `none` if its escapes name half of a surrogate pair alone,
so that it denotes no Unicode text. -/
inductive Json where
  | null
  | bool (b : Bool)
  | number (literal : String)
  | string (text : Option String)
  | array (items : List Json)
  | object (members : List (Option String × Json))
  deriving Repr

namespace Json

/-- The string value of a text. -/
def text (s : String) : Json := .string (some s)

/-- The number value of a natural number. -/
def nat (n : Nat) : Json := .number (CSymbols.Text.natText n)

/-- The number value of an integer. -/
def int : Int → Json
  | .ofNat n => nat n
  | .negSucc n => .number ("-" ++ CSymbols.Text.natText (n + 1))

/-- The object with the given members. -/
def record (members : List (String × Json)) : Json :=
  .object (members.map fun m => (some m.1, m.2))

/-- A value if there is one, and `null` otherwise. -/
def optional {α : Type} (f : α → Json) : Option α → Json
  | none => .null
  | some a => f a

/-- The last value under a key of an object. -/
def member? (key : String) : Json → Option Json
  | .object members => (members.reverse.find? fun m => m.1 == some key).map Prod.snd
  | _ => none

def text? : Json → Option String
  | .string t => t
  | _ => none

def bool? : Json → Option Bool
  | .bool b => some b
  | _ => none

def items? : Json → Option (List Json)
  | .array items => some items
  | _ => none

/-- The natural number that a literal without sign, fraction and exponent denotes. -/
def nat? : Json → Option Nat
  | .number literal => CSymbols.Text.nat? literal
  | _ => none

/-- The integer that a literal without fraction and exponent denotes. -/
def int? : Json → Option Int
  | .number literal =>
    match literal.toList with
    | '-' :: digits => (CSymbols.Text.digitsValue? 10 digits).map fun n => -(n : Int)
    | digits => (CSymbols.Text.digitsValue? 10 digits).map Int.ofNat
  | _ => none

end Json
end CSymbols

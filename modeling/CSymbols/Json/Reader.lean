import CSymbols.Json.Basic
import CSymbols.Json.Token

/-! Reading a JSON text. The tokens drive a machine whose stack holds the open arrays and objects,
so that the depth of a value is not limited. -/
namespace CSymbols.Json

/-- An open array or object, with what it holds so far in reverse. -/
inductive Frame where
  | array (items : List Json)
  /-- The members before, and the key of the one being read. -/
  | object (members : List (Option String × Json)) (key : Option String)

/-- What the next token has to be. -/
inductive Expected where
  | value
  /-- The first item of an array, or its end. -/
  | firstItem
  /-- The first key of an object, or its end. -/
  | firstKey
  /-- The key of a further member of the object that holds the given ones. -/
  | key (members : List (Option String × Json))
  | colon (members : List (Option String × Json)) (key : Option String)
  /-- A value has just ended: a comma or an end has to follow, or nothing. -/
  | next (v : Json)

/-- The state of the machine: what is expected, inside which open arrays and objects. -/
structure State where
  expected : Expected
  frames : List Frame

/-- The state behind a token that begins a value. -/
def State.onValue (t : Token) (frames : List Frame) : Option State :=
  match t with
  | .leftBrace => some ⟨.firstKey, frames⟩
  | .leftBracket => some ⟨.firstItem, frames⟩
  | .null => some ⟨.next .null, frames⟩
  | .bool b => some ⟨.next (.bool b), frames⟩
  | .number literal => some ⟨.next (.number literal), frames⟩
  | .string text => some ⟨.next (.string text), frames⟩
  | _ => none

/-- The state behind a token that follows a whole value. -/
def State.onNext (v : Json) (t : Token) : List Frame → Option State
  | .array items :: frames =>
    match t with
    | .comma => some ⟨.value, .array (v :: items) :: frames⟩
    | .rightBracket => some ⟨.next (.array (v :: items).reverse), frames⟩
    | _ => none
  | .object members key :: frames =>
    match t with
    | .comma => some ⟨.key ((key, v) :: members), frames⟩
    | .rightBrace => some ⟨.next (.object ((key, v) :: members).reverse), frames⟩
    | _ => none
  | [] => none

def State.step (s : State) (t : Token) : Option State :=
  match s.expected with
  | .value => onValue t s.frames
  | .firstItem =>
    if t = .rightBracket then some ⟨.next (.array []), s.frames⟩
    else onValue t (.array [] :: s.frames)
  | .firstKey =>
    match t with
    | .rightBrace => some ⟨.next (.object []), s.frames⟩
    | .string key => some ⟨.colon [] key, s.frames⟩
    | _ => none
  | .key members =>
    match t with
    | .string key => some ⟨.colon members key, s.frames⟩
    | _ => none
  | .colon members key =>
    if t = .colon then some ⟨.value, .object members key :: s.frames⟩ else none
  | .next v => onNext v t s.frames

/-- The value that a sequence of tokens spells. -/
def ofTokens? (ts : List Token) : Option Json :=
  match ts.foldlM State.step ⟨.value, []⟩ with
  | some ⟨.next v, []⟩ => some v
  | _ => none

/-- The value that a text spells, blanks around it allowed. -/
def parse? (s : String) : Option Json := (tokens s.toList).bind ofTokens?

end CSymbols.Json

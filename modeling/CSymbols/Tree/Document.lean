import CSymbols.Json.Reader
import CSymbols.Tree.Node

/-! Reading a syntax tree from the JSON document that a compiler writes.

A location in a document may leave out its file or its line; it then has those of the location
before it in the text, whatever node that one belongs to. Values under keys that mean nothing are
not looked at, and only levels that are looked at count towards the limit of depth. -/
namespace CSymbols.Tree

/-- The file and the line that a location takes over if it has none of its own. -/
structure Carried where
  file : String := ""
  line : Nat := 0
  deriving DecidableEq, Repr

/-- Reading in text order; `none` is a document that does not describe a tree. -/
abbrev Reading := StateT Carried Option

/-- So many levels of arrays and objects may be open at once. -/
def maxDepth : Nat := 127

/-- A number below 2^64, written with digits alone. -/
def word? (v : Json) : Option Nat := v.nat?.filter (· < 18446744073709551616)

/-- A text, or `null`. -/
def nullableText? : Json → Option (Option String)
  | .null => some none
  | .string (some s) => some (some s)
  | _ => none

/-- A truth value; `null` is false. -/
def nullableBool? : Json → Option Bool
  | .null => some false
  | .bool b => some b
  | _ => none

/-- The members under the given keys. Every key must be a text, and none of the given ones may
come twice. -/
def knownMembers? (known : List String) :
    List (Option String × Json) → Option (List (String × Json))
  | [] => some []
  | (none, _) :: _ => none
  | (some key, v) :: ms => do
    let rest ← knownMembers? known ms
    if !known.contains key then some rest
    else if (rest.lookup key).isSome then none
    else some ((key, v) :: rest)

/-- The chain of inclusions of a place: an object with a file and perhaps a further chain, which is
not looked at. -/
def isInclusion (room : Nat) : Json → Bool
  | .object members =>
    0 < room &&
    members.all (fun m => m.1 == some "file" && m.2.text?.isSome || m.1 == some "includedFrom") &&
    members.countP (fun m => m.1 == some "file") == 1 &&
    members.countP (fun m => m.1 == some "includedFrom") ≤ 1
  | _ => false

/-- What has been read of a place. -/
structure PlaceDraft where
  file : Option String := none
  line : Option Nat := none
  column : Option Nat := none
  length : Option Nat := none

/-- Adds a member of a place. Repeated members replace earlier ones. -/
def PlaceDraft.add (room : Nat) (d : PlaceDraft) : Option String × Json → Option PlaceDraft
  | (some "file", v) => v.text?.map fun t => { d with file := some t }
  | (some "line", v) => (word? v).map fun n => { d with line := some n }
  | (some "col", v) => (word? v).map fun n => { d with column := some n }
  | (some "tokLen", v) => (word? v).map fun n => { d with length := some n }
  | (some "presumedFile", v) => v.text?.map fun _ => d
  | (some "presumedLine", v) => (word? v).map fun _ => d
  | (some "isMacroArgExpansion", v) => v.bool?.map fun _ => d
  | (some "includedFrom", v) => if isInclusion room v then some d else none
  | _ => none

/-- What the members of a place behind its offset say. -/
def PlaceDraft.ofMembers? (room : Nat) (members : List (Option String × Json)) :
    Option PlaceDraft :=
  members.foldlM (PlaceDraft.add room) {}

/-- A place: an object that begins with the offset. -/
def readPlace (room : Nat) : Json → Reading Place
  | .object ((some "offset", v) :: members) =>
    match room with
    | 0 => failure
    | room + 1 => do
      let offset ← word? v
      let draft ← PlaceDraft.ofMembers? room members
      let column ← draft.column
      let length ← draft.length
      let carried ← get
      let file := draft.file.getD carried.file
      let line := draft.line.getD carried.line
      set (Carried.mk file line)
      return ⟨offset, file, line, column, length⟩
  | _ => failure

/-- A location: an empty object, a place, or the two places of text from a macro in this order. -/
def readLocation (room : Nat) : Json → Reading Location
  | .object [] => if room = 0 then failure else pure .absent
  | .object [(some "spellingLoc", s), (some "expansionLoc", e)] =>
    match room with
    | 0 => failure
    | room + 1 => do
      let spelling ← readPlace room s
      let expansion ← readPlace room e
      return .expanded spelling expansion
  | v => do return .plain (← readPlace room v)

/-- A range: an object with its two ends in either order. -/
def readRange (room : Nat) : Json → Reading Range
  | .object [(some "begin", b), (some "end", e)] =>
    match room with
    | 0 => failure
    | room + 1 => do
      let start ← readLocation room b
      let stop ← readLocation room e
      return ⟨start, stop⟩
  | .object [(some "end", e), (some "begin", b)] =>
    match room with
    | 0 => failure
    | room + 1 => do
      let stop ← readLocation room e
      let start ← readLocation room b
      return ⟨start, stop⟩
  | _ => failure

/-- The type and the desugared type, in an object or as an array of the two. -/
def types? (room : Nat) : Json → Option (Option String × Option String)
  | .null => some (none, none)
  | .object members => do
    let known ← knownMembers? ["qualType", "desugaredQualType"] members
    let type ← nullableText? ((known.lookup "qualType").getD .null)
    let desugared ← nullableText? ((known.lookup "desugaredQualType").getD .null)
    if room = 0 then none else some (type, desugared)
  | .array [t, d] => do
    let type ← nullableText? t
    let desugared ← nullableText? d
    if room = 0 then none else some (type, desugared)
  | _ => none

/-- The name of the declaration that a reference means, in an object or as an array of one. -/
def target? (room : Nat) : Json → Option (Option String)
  | .null => some none
  | .object members => do
    let known ← knownMembers? ["name"] members
    let name ← nullableText? ((known.lookup "name").getD .null)
    if room = 0 then none else some name
  | .array [n] => do
    let name ← nullableText? n
    if room = 0 then none else some name
  | _ => none

/-- Whether a value can identify a node: a 64-bit number in hexadecimal behind `0x`, which a plus
sign may follow. -/
def isIdentity (v : Json) : Bool :=
  match v.text?.map String.toList with
  | some ('0' :: 'x' :: '+' :: digits) | some ('0' :: 'x' :: digits) =>
    (Text.digitsValue? 16 digits).any (· < 18446744073709551616)
  | _ => false

/-- The keys that mean something in a node of a kind. -/
def Kind.keys : Kind → List String
  | .declaration _ =>
    ["name", "loc", "range", "isImplicit", "type", "storageClass", "inline"]
  | .reference _ => ["loc", "range", "referencedDecl", "name", "isImplicit"]
  | .other => ["loc", "range", "isImplicit"]

/-- What has been read of a node. -/
structure Draft where
  /-- The keys read so far. -/
  seen : List String := []
  name : Option String := none
  location : Location := .absent
  range : Option Range := none
  isImplicit : Bool := false
  type : Option String := none
  desugaredType : Option String := none
  storageClass : Option String := none
  isInline : Bool := false
  target : Option String := none
  children : List Node := []

/-- The node that a draft of a kind makes. -/
def Draft.node (kind : Kind) (d : Draft) : Node :=
  match kind with
  | .declaration k =>
    .mk (.declaration ⟨k, d.name, d.location, d.range, d.isImplicit, d.type, d.desugaredType,
      d.storageClass, d.isInline⟩) d.children
  | .reference k =>
    .mk (.reference ⟨k, d.target, d.name, d.location, d.range, d.isImplicit⟩) d.children
  | .other => .mk (.other ⟨d.location, d.range, d.isImplicit⟩) d.children

/-- Adds a member whose key means something. -/
def Draft.add (room : Nat) (kind : Kind) (d : Draft) (key : String) (v : Json) : Reading Draft :=
  match key with
  | "name" => do return { d with name := ← nullableText? v }
  | "loc" =>
    match v with
    | .null => pure d
    | v => do return { d with location := ← readLocation room v }
  | "range" =>
    match v with
    | .null => pure d
    | v => do return { d with range := some (← readRange room v) }
  | "isImplicit" => do
    return { d with isImplicit := ← if kind = .other then v.bool? else nullableBool? v }
  | "type" => do
    let (type, desugared) ← types? room v
    return { d with type := type, desugaredType := desugared }
  | "storageClass" => do return { d with storageClass := ← nullableText? v }
  | "inline" => do return { d with isInline := ← nullableBool? v }
  | "referencedDecl" => do return { d with target := ← target? room v }
  | _ => failure

/-- How far a node has been read: before its kind is known, and behind it. -/
inductive Phase where
  | header (identified : Bool)
  | body (kind : Kind) (draft : Draft)

/-- Takes in a member other than the children. -/
def Phase.add (room : Nat) (p : Phase) (key : String) (v : Json) : Reading Phase :=
  match p with
  | .header identified =>
    if key == "kind" then do return .body (Kind.ofName (← v.text?)) {}
    else if key == "id" && !identified && isIdentity v then pure (.header true)
    else failure
  | .body kind draft =>
    if kind.keys.contains key then
      if draft.seen.contains key then failure
      else do return .body kind { ← draft.add room kind key v with seen := key :: draft.seen }
    else pure p

/-- Whether a member holds the children. -/
def Phase.isChildren (p : Phase) (key : String) : Bool :=
  match p with
  | .header _ => false
  | .body _ _ => key == "inner"

/-- Puts in the children; a second list replaces the first. -/
def Phase.withChildren (p : Phase) (children : List Node) : Phase :=
  match p with
  | .header identified => .header identified
  | .body kind draft => .body kind { draft with children := children }

/-- The node that has been read. One without a kind is of no interest. -/
def Phase.node : Phase → Node
  | .header _ => ({} : Draft).node .other
  | .body kind draft => draft.node kind

mutual

/-- A node, with room for so many levels. -/
def readNode (room : Nat) : Json → Reading Node
  | .object members =>
    match room with
    | 0 => failure
    | room + 1 => do return (← readMembers room (.header false) members).node
  | _ => failure

def readMembers (room : Nat) (p : Phase) : List (Option String × Json) → Reading Phase
  | [] => pure p
  | (none, _) :: _ => failure
  | (some key, v) :: members =>
    if p.isChildren key then do
      let children ← readChildren room v
      readMembers room (p.withChildren children) members
    else do
      let p ← p.add room key v
      readMembers room p members

def readChildren (room : Nat) : Json → Reading (List Node)
  | .array items =>
    match room with
    | 0 => failure
    | room + 1 => readNodes room items
  | _ => failure

def readNodes (room : Nat) : List Json → Reading (List Node)
  | [] => pure []
  | v :: vs => do
    let n ← readNode room v
    let ns ← readNodes room vs
    return n :: ns

end

/-- The tree that a value describes. -/
def ofJson? (v : Json) : Option Node := ((readNode maxDepth v).run {}).map Prod.fst

/-- The tree that a document describes. -/
def parse? (document : String) : Option Node := (Json.parse? document).bind ofJson?

end CSymbols.Tree

import CSymbols.Toml.Basic
import CSymbols.Toml.Scalar

/-! Reading TOML documents. -/
namespace CSymbols.Toml

/-- Arrays and tables in braces may not be nested to this depth, nor may a dotted key have so many
parts. -/
def depthLimit : Nat := 80

def skipBlanks (cs : List Char) : List Char := cs.dropWhile isTomlBlank

def isBareKeyChar (c : Char) : Bool := c.isAlphanum || c == '_' || c == '-'

/-- One part of a key. -/
def simpleKey? : List Char → Option (String × List Char)
  | '"' :: cs => (basicString? cs).map fun r => (String.ofList r.1, r.2)
  | '\'' :: cs => (literalString? cs).map fun r => (String.ofList r.1, r.2)
  | cs =>
    let key := cs.takeWhile isBareKeyChar
    if key == [] then none else some (String.ofList key, cs.dropWhile isBareKeyChar)

/-- The parts of a dotted key, with blanks around them. There may be so many parts. -/
def key? : Nat → List Char → Option (List String × List Char)
  | 0, _ => none
  | room + 1, cs => do
    let (part, cs) ← simpleKey? (skipBlanks cs)
    match skipBlanks cs with
    | '.' :: cs =>
      let (parts, cs) ← key? room cs
      return (part :: parts, cs)
    | cs => return ([part], cs)

/-- A comment behind its mark: the text behind it. -/
def skipComment (cs : List Char) : List Char := cs.dropWhile isPlain

/-- Drops blanks, newlines and comments inside an array. -/
def skipSpace : Nat → List Char → List Char
  | 0, cs => cs
  | fuel + 1, cs =>
    match skipBlanks cs with
    | '#' :: cs =>
      match newline? (skipComment cs) with
      | some cs => skipSpace fuel cs
      | none => '#' :: cs
    | cs =>
      match newline? cs with
      | some cs => skipSpace fuel cs
      | none => cs

/-- A value that is neither array nor table. -/
def scalar? : List Char → Option (Item × List Char)
  | 't' :: 'r' :: 'u' :: 'e' :: cs => some (.boolean true, cs)
  | 'f' :: 'a' :: 'l' :: 's' :: 'e' :: cs => some (.boolean false, cs)
  | '0' :: 'x' :: cs => (based? 16 cs).map fun r => (.integer r.1, r.2)
  | '0' :: 'o' :: cs => (based? 8 cs).map fun r => (.integer r.1, r.2)
  | '0' :: 'b' :: cs => (based? 2 cs).map fun r => (.integer r.1, r.2)
  | cs =>
    match string? cs, datetime? cs, special? cs with
    | some (s, rest), _, _ => some (.string (String.ofList s), rest)
    | none, some rest, _ => some (.datetime, rest)
    | none, none, some rest => some (.float, rest)
    | none, none, none =>
      (decimalNumber? cs).map fun r => (r.1.elim .float .integer, r.2)

mutual

/-- A value. The fuel bounds the work, `room` the depth. -/
def value? (fuel room : Nat) (cs : List Char) : Option (Item × List Char) :=
  match fuel with
  | 0 => none
  | fuel + 1 =>
    match cs, room with
    | '[' :: cs, room + 1 => (items? fuel room cs).map fun r => (.array r.1, r.2)
    | '\x7b' :: cs, room + 1 =>
      match skipBlanks cs with
      | '\x7d' :: rest => some (.inline [], rest)
      | cs => (pairs? fuel room [] cs).map fun r => (.inline r.1, r.2)
    | cs, _ => scalar? cs

/-- The items of an array up to its end. A comma may stand behind the last one. -/
def items? (fuel room : Nat) (cs : List Char) : Option (List Item × List Char) :=
  match fuel with
  | 0 => none
  | fuel + 1 =>
    match skipSpace cs.length cs with
    | ']' :: rest => some ([], rest)
    | cs => do
      let (item, cs) ← value? fuel room cs
      match skipSpace cs.length cs with
      | ',' :: cs =>
        let (items, rest) ← items? fuel room cs
        return (item :: items, rest)
      | ']' :: rest => return ([item], rest)
      | _ => none

/-- The pairs of a table in braces up to its end, added to those before. -/
def pairs? (fuel room : Nat) (es : Entries) (cs : List Char) : Option (Entries × List Char) :=
  match fuel with
  | 0 => none
  | fuel + 1 => do
    let (path, cs) ← key? (depthLimit - 1) cs
    let cs ← past? '=' cs
    let (item, cs) ← value? fuel room (skipBlanks cs)
    let es ← es.put? item path
    match skipBlanks cs with
    | ',' :: cs => pairs? fuel room es cs
    | '\x7d' :: rest => return (es, rest)
    | _ => none

end

/-- The end of a line: blanks, a comment, and a newline or the end of the text. -/
def lineEnd? (cs : List Char) : Option (List Char) :=
  let rest := match skipBlanks cs with
    | '#' :: cs => skipComment cs
    | cs => cs
  if rest == [] then some [] else newline? rest

/-- A document that is being read: its tables, and the path of the last header. -/
structure State where
  root : Entries := []
  header : List String := []

/-- A header in brackets. -/
def header? (s : State) (cs : List Char) : Option (State × List Char) := do
  match cs with
  | '[' :: cs =>
    let (path, cs) ← key? (depthLimit - 1) cs
    let cs ← past? ']' (← past? ']' cs)
    let root ← s.root.descend? (Entries.openElement? (path.getLast?.getD "")) path.dropLast
    return (⟨root, path⟩, cs)
  | cs =>
    let (path, cs) ← key? (depthLimit - 1) cs
    let cs ← past? ']' cs
    let root ← s.root.descend? (Entries.openTable? (path.getLast?.getD "")) path.dropLast
    return (⟨root, path⟩, cs)

/-- A key and its value, which go to the table of the last header. -/
def pair? (s : State) (cs : List Char) : Option (State × List Char) := do
  let (path, cs) ← key? (depthLimit - 1) cs
  let cs := skipBlanks (← past? '=' cs)
  let (item, cs) ← value? (2 * cs.length + 2) (depthLimit - 1) cs
  let root ← s.root.descend? (Entries.put? item path) s.header
  return ({ s with root }, cs)

/-- Reads line by line; the fuel bounds the number of lines. -/
def readLines? (s : State) : Nat → List Char → Option State
  | 0, _ => none
  | fuel + 1, cs =>
    match skipBlanks cs with
    | [] => some s
    | '[' :: cs => do
      let (s, cs) ← header? s cs
      readLines? s fuel (← lineEnd? cs)
    | '#' :: cs => do readLines? s fuel (← lineEnd? (skipComment cs))
    | cs =>
      match newline? cs with
      | some cs => readLines? s fuel cs
      | none => do
        let (s, cs) ← pair? s cs
        readLines? s fuel (← lineEnd? cs)

/-- The entries of a document. A byte order mark at its front does not count. -/
def parse? (document : String) : Option Entries :=
  let cs := match document.toList with
    | '\ufeff' :: cs => cs
    | cs => cs
  (readLines? {} (cs.length + 1) cs).map State.root

end CSymbols.Toml

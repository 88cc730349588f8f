/-! TOML documents as nested tables. -/
namespace CSymbols.Toml

/-- How a table came to be, which decides what may still be added to it. -/
inductive Origin where
  /-- By a header of its own. -/
  | header
  /-- By the header of a table below it. -/
  | implied
  /-- By a dotted key. -/
  | dotted
  deriving DecidableEq, Repr

/-- A value or a table. Numbers with a fraction, dates and times keep no value, since none is ever
looked at. -/
inductive Item where
  | string (s : String)
  | integer (n : Int)
  | float
  | boolean (b : Bool)
  | datetime
  | array (items : List Item)
  /-- A table in braces. -/
  | inline (entries : List (String × Item))
  | table (origin : Origin) (entries : List (String × Item))
  /-- A list of tables, each with a header in double brackets. -/
  | tables (elements : List (List (String × Item)))
  deriving Repr

/-- The entries of a table, in the order in which their keys came. -/
abbrev Entries := List (String × Item)

namespace Entries

/-- Adds an entry at the end, unless the key is there already. -/
def add? (key : String) (item : Item) (es : Entries) : Option Entries :=
  if (es.lookup key).isSome then none else some (es ++ [(key, item)])

/-- Replaces the item under a key. -/
def replace (key : String) (item : Item) (es : Entries) : Entries :=
  es.map fun e => if e.1 == key then (key, item) else e

/-- Changes the last of some tables. -/
def onLast? (f : Entries → Option Entries) (elements : List Entries) : Option (List Entries) :=
  match elements.getLast? with
  | none => none
  | some last => (f last).map fun es => elements.dropLast ++ [es]

/-- Changes the table at the end of a path of headers. Tables on the way that are not there yet are
implied by it; in a list of tables the last one is meant. -/
def descend? (f : Entries → Option Entries) : List String → Entries → Option Entries
  | [], es => f es
  | key :: path, es =>
    match es.lookup key with
    | none => (descend? f path []).map fun sub => es ++ [(key, .table .implied sub)]
    | some (.table origin sub) =>
      (descend? f path sub).map fun sub => replace key (.table origin sub) es
    | some (.tables elements) =>
      (onLast? (descend? f path) elements).map fun elements => replace key (.tables elements) es
    | some _ => none

/-- Adds a value under a dotted key. All tables on the way must be free to grow, and the last of
them must have come from dotted keys. -/
def put? (item : Item) : List String → Entries → Option Entries
  | [], _ => none
  | [key], es => add? key item es
  | key :: path, es =>
    match es.lookup key with
    | none => (put? item path []).map fun sub => es ++ [(key, .table .dotted sub)]
    | some (.table .dotted sub) =>
      (put? item path sub).map fun sub => replace key (.table .dotted sub) es
    | some (.table .implied sub) =>
      if path.length ≤ 1 then none
      else (put? item path sub).map fun sub => replace key (.table .implied sub) es
    | some (.tables elements) =>
      if path.length ≤ 1 then none
      else (onLast? (put? item path) elements).map fun elements =>
        replace key (.tables elements) es
    | some _ => none

/-- Opens the table of a header. Only one that headers below it implied may be there already. -/
def openTable? (key : String) (es : Entries) : Option Entries :=
  match es.lookup key with
  | none => some (es ++ [(key, .table .header [])])
  | some (.table .implied sub) => some (replace key (.table .header sub) es)
  | some _ => none

/-- Opens a further table of a list. -/
def openElement? (key : String) (es : Entries) : Option Entries :=
  match es.lookup key with
  | none => some (es ++ [(key, .tables [[]])])
  | some (.tables elements) => some (replace key (.tables (elements ++ [[]])) es)
  | some _ => none

end Entries
end CSymbols.Toml

import CSymbols.Json.Basic

/-! Writing JSON texts, compact and indented by four spaces. -/
namespace CSymbols.Json

/-- A character inside a string literal. Quotes, backslashes and control characters are escaped,
these by a letter where there is one; all else stands for itself. -/
def escape (c : Char) : List Char :=
  if c == '"' then ['\\', '"']
  else if c == '\\' then ['\\', '\\']
  else if c == '\x08' then ['\\', 'b']
  else if c == '\x0c' then ['\\', 'f']
  else if c == '\n' then ['\\', 'n']
  else if c == '\r' then ['\\', 'r']
  else if c == '\t' then ['\\', 't']
  else if c.toNat < 0x20 then
    ['\\', 'u', '0', '0', CSymbols.Text.digitChar (c.toNat / 16),
      CSymbols.Text.digitChar (c.toNat % 16)]
  else [c]

/-- A string literal. One that denotes no text is written as half of a surrogate pair. -/
def quote : Option String → List Char
  | some s => '"' :: s.toList.flatMap escape ++ ['"']
  | none => "\"\\ud800\"".toList

mutual

/-- The text of a value without blanks. -/
def compactChars : Json → List Char
  | .null => "null".toList
  | .bool true => "true".toList
  | .bool false => "false".toList
  | .number literal => literal.toList
  | .string t => quote t
  | .array items => '[' :: compactItems items ++ [']']
  | .object members => '\x7b' :: compactMembers members ++ ['\x7d']

def compactItems : List Json → List Char
  | [] => []
  | [v] => compactChars v
  | v :: vs => compactChars v ++ ',' :: compactItems vs

def compactMembers : List (Option String × Json) → List Char
  | [] => []
  | [(k, v)] => quote k ++ ':' :: compactChars v
  | (k, v) :: ms => quote k ++ ':' :: compactChars v ++ ',' :: compactMembers ms

end

/-- A new line, indented by the given number of levels. -/
def freshLine (level : Nat) : List Char := '\n' :: List.replicate (4 * level) ' '

mutual

/-- The text of a value with one item or member a line, inside the given number of levels. Empty
arrays and objects stay on one line. -/
def prettyChars (level : Nat) : Json → List Char
  | .array [] => "[]".toList
  | .array (v :: vs) => '[' :: prettyItems (level + 1) (v :: vs) ++ freshLine level ++ [']']
  | .object [] => ['\x7b', '\x7d']
  | .object (m :: ms) =>
    '\x7b' :: prettyMembers (level + 1) (m :: ms) ++ freshLine level ++ ['\x7d']
  | v => compactChars v

def prettyItems (level : Nat) : List Json → List Char
  | [] => []
  | [v] => freshLine level ++ prettyChars level v
  | v :: vs => freshLine level ++ prettyChars level v ++ ',' :: prettyItems level vs

def prettyMembers (level : Nat) : List (Option String × Json) → List Char
  | [] => []
  | [(k, v)] => freshLine level ++ quote k ++ ':' :: ' ' :: prettyChars level v
  | (k, v) :: ms =>
    freshLine level ++ quote k ++ ':' :: ' ' :: prettyChars level v ++ ',' :: prettyMembers level ms

end

def compact (v : Json) : String := String.ofList (compactChars v)

def pretty (v : Json) : String := String.ofList (prettyChars 0 v)

end CSymbols.Json

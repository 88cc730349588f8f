import CSymbols.Text.Blank

/-! The text between the parentheses of a parameter list, cut into the spellings of the types.
Only a comma outside all brackets divides two types. -/
namespace CSymbols.Spelling

/-- Bracket depth behind a character. Closing brackets never take it below zero, and angle brackets
count although they may be operators. -/
def depthAfter (depth : Nat) (c : Char) : Nat :=
  if c == '(' || c == '<' || c == '[' then depth + 1
  else if c == ')' || c == '>' || c == ']' then depth - 1
  else depth

/-- Puts a character in front of the first piece. -/
def extendFirst (c : Char) : List (List Char) → List (List Char)
  | [] => [[c]]
  | piece :: pieces => (c :: piece) :: pieces

/-- The pieces between the commas at depth zero; there is always at least one. -/
def commaPieces (depth : Nat) : List Char → List (List Char)
  | [] => [[]]
  | c :: cs =>
    if c == ',' && depth == 0 then [] :: commaPieces depth cs
    else extendFirst c (commaPieces (depthAfter depth c) cs)

/-- The list that takes no arguments, written out. -/
def noParameters : List Char := "void".toList

/-- The mark of a variable number of arguments, which is not a type. -/
def variadicMark : List Char := "...".toList

/-- The types of a parameter list. A blank list and a lone `void` have none. -/
def parameterTypes (parameters : List Char) : List (List Char) :=
  let text := Text.trim parameters
  if text == [] || text == noParameters then []
  else ((commaPieces 0 text).map Text.trim).filter fun t => t != [] && t != variadicMark

/-- The types of a parameter list given as a string. -/
def splitParameterList (parameters : String) : List String :=
  (parameterTypes parameters.toList).map String.ofList

end CSymbols.Spelling

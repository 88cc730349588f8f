/-! The lines of a text. -/
namespace CSymbols.Text

/-- Drops one carriage return at the end. -/
def dropReturn (line : List Char) : List Char :=
  if line.getLast? = some '\r' then line.dropLast else line

/-- The pieces between newlines; there is always at least one. -/
def newlinePieces : List Char → List (List Char)
  | [] => [[]]
  | c :: cs =>
    if c == '\n' then [] :: newlinePieces cs
    else
      match newlinePieces cs with
      | [] => [[c]]
      | piece :: pieces => (c :: piece) :: pieces

/-- Drops the carriage return before each newline, and the last piece if it is empty. -/
def endedLines : List (List Char) → List (List Char)
  | [] => []
  | [last] => if last == [] then [] else [last]
  | line :: lines => dropReturn line :: endedLines lines

/-- The lines of a text. A newline ends a line, with one carriage return before it if there is one;
the last line need not be ended. -/
def lines (cs : List Char) : List (List Char) := endedLines (newlinePieces cs)

end CSymbols.Text

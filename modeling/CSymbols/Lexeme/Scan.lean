import CSymbols.Lexeme.Extent
import CSymbols.Lexeme.Kind

/-! Cutting a source text into lexemes. At each place the longest lexeme wins; its first characters
tell which kind that can be. -/
namespace CSymbols

/-- A piece of a source text. -/
structure Lexeme where
  /-- `none` where no kind fits, as in a literal that is never closed. -/
  kind : Option Lexeme.Kind
  text : List Char
  /-- The line on which the piece begins, counted from one in 32 bits. -/
  line : Nat
  deriving DecidableEq, Repr

namespace Lexeme

/-- A lexeme at the front of a text, and the text behind it. -/
structure Cut where
  kind : Option Kind
  text : List Char
  rest : List Char
  deriving DecidableEq, Repr

/-- The lexeme of the given first character and the longest run of characters behind it. -/
def cutRun (kind : Kind) (p : Char → Bool) (c : Char) (cs : List Char) : Cut :=
  ⟨some kind, c :: cs.takeWhile p, cs.dropWhile p⟩

/-- A comment or directive that begins with `start` and takes the rest of the line. -/
def cutLine (kind : Kind) (start cs : List Char) : Cut :=
  ⟨some kind, start ++ (restOfLine cs).1, (restOfLine cs).2⟩

/-- A string or character literal. Unclosed, it has no kind. -/
def cutLiteral (kind : Kind) (quote : Char) (cs : List Char) : Cut :=
  let r := restOfLiteral quote cs
  ⟨if r.1 then some kind else none, quote :: r.2.1, r.2.2⟩

/-- A block comment; without an end, its slash is punctuation. -/
def cutBlock (cs : List Char) : Cut :=
  match restOfBlock cs with
  | some r => ⟨some .blockComment, '/' :: '*' :: r.1, r.2⟩
  | none => ⟨some .punctuation, ['/'], '*' :: cs⟩

/-- A raw string; without an end, its `R` is an identifier. -/
def cutRaw (cs : List Char) : Cut :=
  match restOfRaw cs with
  | some r => ⟨some .rawString, 'R' :: '"' :: r.1, r.2⟩
  | none => ⟨some .identifier, ['R'], '"' :: cs⟩

/-- The lexeme at the front of a non-empty text. -/
def cut (c : Char) (cs : List Char) : Cut :=
  if isSpace c then cutRun .whitespace isSpace c cs
  else if c == '\n' then ⟨some .newline, [c], cs⟩
  else if c == '#' then cutLine .directive [c] cs
  else if c == '"' then cutLiteral .string '"' cs
  else if c == '\'' then cutLiteral .character '\'' cs
  else if isLetter c then
    match c, cs with
    | 'R', '"' :: rest => cutRaw rest
    | _, _ => cutRun .identifier isIdentifierRest c cs
  else if c.isDigit then cutRun .number isNumberRest c cs
  else
    match c, cs with
    | '/', '/' :: rest => cutLine .lineComment ['/', '/'] rest
    | '/', '*' :: rest => cutBlock rest
    | _, _ => ⟨some .punctuation, [c], cs⟩

theorem cut_append (c : Char) (cs : List Char) : (cut c cs).text ++ (cut c cs).rest = c :: cs := by
  unfold cut
  split
  · simp [cutRun]
  split
  · simp
  split
  · simp [cutLine, restOfLine_append]
  split
  · simp_all [cutLiteral, restOfLiteral_append]
  split
  · simp_all [cutLiteral, restOfLiteral_append]
  split
  · split
    · unfold cutRaw
      split
      · rename_i h
        simpa using restOfRaw_append h
      · simp
    · simp [cutRun]
  split
  · simp [cutRun]
  split
  · simp [cutLine, restOfLine_append]
  · unfold cutBlock
    split
    · rename_i h
      simpa using restOfBlock_append h
    · simp
  · simp

theorem cut_text_ne_nil (c : Char) (cs : List Char) : (cut c cs).text ≠ [] := by
  unfold cut
  repeat' split
  all_goals simp [cutRun, cutLine, cutLiteral, cutBlock, cutRaw]
  all_goals split <;> simp

theorem cut_rest_length (c : Char) (cs : List Char) : (cut c cs).rest.length < cs.length + 1 := by
  have h := congrArg List.length (cut_append c cs)
  have := List.length_pos_iff.2 (cut_text_ne_nil c cs)
  simp only [List.length_append, List.length_cons] at h
  omega

/-- The lexemes of a text whose first character stands on the given line. Of a line only 32 bits are
kept. -/
def scan (line : Nat) : List Char → List Lexeme
  | [] => []
  | c :: cs =>
    let next := cut c cs
    ⟨next.kind, next.text, line % 4294967296⟩ :: scan (line + next.text.count '\n') next.rest
  termination_by cs => cs.length
  decreasing_by simpa using cut_rest_length c cs

/-- The lexemes of a source text. -/
def lexemes (source : String) : List Lexeme := scan 1 source.toList

end Lexeme
end CSymbols

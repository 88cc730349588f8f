/-! The kinds of lexeme that finding comments and preprocessor directives needs. Literals are kinds
of their own because `//`, `/*` and `#` inside them mean nothing. -/
namespace CSymbols.Lexeme

inductive Kind where
  | whitespace
  | newline
  /-- `//` and the rest of the line, with its continuations. -/
  | lineComment
  | blockComment
  /-- `#` and the rest of the line, with its continuations. -/
  | directive
  | string
  | rawString
  | character
  | identifier
  | number
  | punctuation
  deriving DecidableEq, Repr

namespace Kind

def name : Kind → String
  | whitespace => "Whitespace"
  | newline => "Newline"
  | lineComment => "LineComment"
  | blockComment => "BlockComment"
  | directive => "Directive"
  | string => "String"
  | rawString => "RawString"
  | character => "Char"
  | identifier => "Ident"
  | number => "Number"
  | punctuation => "Punct"

def isComment (k : Kind) : Bool := k == lineComment || k == blockComment

end Kind
end CSymbols.Lexeme

import CSymbols.Lexeme.Scan
import CSymbols.Text.Blank

/-! Remarks: what a source says outside its syntax tree, in comments and preprocessor directives. -/
namespace CSymbols

/-- The text of a comment or directive and the line on which it begins. -/
structure Remark where
  text : String
  line : Nat
  deriving DecidableEq, Repr

namespace Remark

/-- All comments among the lexemes, in order. -/
def commentsOf (lexemes : List Lexeme) : List Remark :=
  (lexemes.filter fun l => l.kind.any Lexeme.Kind.isComment).map fun l =>
    ⟨String.ofList l.text, l.line⟩

/-- The directives among the lexemes, in order and without blanks at their ends. A directive counts
only as the first lexeme of its line, blanks and block comments apart; `atStart` tells whether
nothing else has been seen on the current line. -/
def directivesFrom (atStart : Bool) : List Lexeme → List Remark
  | [] => []
  | l :: ls =>
    match l.kind with
    | some .newline => directivesFrom true ls
    | some .whitespace | some .blockComment => directivesFrom atStart ls
    | some .directive =>
      if atStart then ⟨String.ofList (Text.trimEnd l.text), l.line⟩ :: directivesFrom false ls
      else directivesFrom false ls
    | _ => directivesFrom false ls

/-- The comments of a source text. -/
def comments (source : String) : List Remark := commentsOf (Lexeme.lexemes source)

/-- The preprocessor directives of a source text. -/
def directives (source : String) : List Remark := directivesFrom true (Lexeme.lexemes source)

end Remark
end CSymbols

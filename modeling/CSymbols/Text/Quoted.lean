import CSymbols.Text.Decimal
import CSymbols.Text.Unshown

/-! Texts in quotes, as errors show them. -/
namespace CSymbols.Text

/-- A character inside quotes. One without a shape of its own is written by its number. -/
def shown (c : Char) : List Char :=
  if c == '"' then ['\\', '"']
  else if c == '\\' then ['\\', '\\']
  else if c == '\t' then ['\\', 't']
  else if c == '\r' then ['\\', 'r']
  else if c == '\n' then ['\\', 'n']
  else if c == '\x00' then ['\\', '0']
  else if isUnshown c then ['\\', 'u', '\x7b'] ++ hexadecimal c.toNat ++ ['\x7d']
  else [c]

/-- A text in quotes. -/
def quoted (s : String) : String := String.ofList ('"' :: s.toList.flatMap shown ++ ['"'])

end CSymbols.Text

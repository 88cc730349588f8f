/-! Natural numbers in decimal and hexadecimal notation. -/
namespace CSymbols.Text

/-- The digit of a number below sixteen, in lower case. -/
def digitChar (n : Nat) : Char :=
  if n < 10 then Char.ofNat (48 + n) else Char.ofNat (87 + n)

/-- Decimal notation without leading zeros. -/
def decimal (n : Nat) : List Char :=
  if n < 10 then [digitChar n] else decimal (n / 10) ++ [digitChar (n % 10)]

/-- Decimal notation as a string. -/
def natText (n : Nat) : String := String.ofList (decimal n)

/-- Hexadecimal notation without leading zeros. -/
def hexadecimal (n : Nat) : List Char :=
  if n < 16 then [digitChar n] else hexadecimal (n / 16) ++ [digitChar (n % 16)]

/-- The number that decimal digits denote. -/
def decimalValue (cs : List Char) : Nat := cs.foldl (fun n c => 10 * n + (c.toNat - 48)) 0

/-- The value of a hexadecimal digit of either case. -/
def hexDigit? (c : Char) : Option Nat :=
  if c.isDigit then some (c.toNat - 48)
  else if 'a' ≤ c && c ≤ 'f' then some (c.toNat - 87)
  else if 'A' ≤ c && c ≤ 'F' then some (c.toNat - 55)
  else none

/-- The number that digits of a base denote, if there is one at least and all are below the base. -/
def digitsValue? (base : Nat) : List Char → Option Nat
  | [] => none
  | c :: cs => (c :: cs).foldlM (fun n c => do
      let d ← hexDigit? c
      if d < base then some (base * n + d) else none) 0

/-- The number that decimal digits denote, if there is a digit and nothing else. -/
def nat? (s : String) : Option Nat := digitsValue? 10 s.toList

end CSymbols.Text

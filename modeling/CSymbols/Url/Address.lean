import CSymbols.Text.Decimal
import CSymbols.Text.Fields

/-! Hosts that are given by number: addresses of 32 bits, with dots, and of 128 bits, with
colons. -/
namespace CSymbols.Url.Address

/-- A part of an address with dots: decimal, octal behind a zero, or hexadecimal behind `0x`, where
nothing may follow. -/
def number? : List Char → Option Nat
  | [] => none
  | ['0', 'x'] | ['0', 'X'] => some 0
  | '0' :: 'x' :: digits | '0' :: 'X' :: digits => Text.digitsValue? 16 digits
  | ['0'] => some 0
  | '0' :: digits => Text.digitsValue? 8 digits
  | digits => Text.digitsValue? 10 digits

/-- The parts of a name, without an empty one at the end. -/
def parts (name : List Char) : List (List Char) :=
  let fields := Text.fields (· == '.') name
  if fields.getLast? == some [] then fields.dropLast else fields

/-- Whether a name has to be an address: whether its last part is a number or looks like one. -/
def endsInNumber (name : List Char) : Bool :=
  match (parts name).getLast? with
  | none | some [] => false
  | some last => last.all Char.isDigit || (number? last).isSome

/-- Whether a name is an address of at most four numbers. All but the last have one byte, and the
last has the bytes that are left. -/
def isDotted (name : List Char) : Bool :=
  match (parts name).mapM number? with
  | none => false
  | some numbers =>
    numbers.length ≤ 4 && numbers.dropLast.all (· < 256) &&
      numbers.getLast?.any (· < Nat.pow 256 (5 - numbers.length))

/-- A byte in decimal notation without leading zeros. -/
def isByte : List Char → Bool
  | ['0'] => true
  | '0' :: _ => false
  | digits => (Text.digitsValue? 10 digits).any (· < 256)

/-- Four bytes with dots between them, as an address with colons may end. -/
def isFourBytes (cs : List Char) : Bool :=
  let fields := Text.fields (· == '.') cs
  fields.length == 4 && fields.all isByte

/-- Up to four hexadecimal digits. -/
def isPiece (cs : List Char) : Bool :=
  0 < cs.length && cs.length ≤ 4 && (Text.digitsValue? 16 cs).isSome

/-- Goes through the fields between colons, with the number of pieces so far. An empty field stands
for as many zeros as are missing, which may happen once; behind it the text may end. -/
def arePieces (count : Nat) (gap justGap : Bool) : List (List Char) → Bool
  | [] => false
  | [[]] => justGap && gap
  | [field] =>
    if field.contains '.' then
      count ≤ 6 && isFourBytes field && (gap || count == 6)
    else count < 8 && isPiece field && (gap || count == 7)
  | [] :: fields => count < 8 && !gap && arePieces (count + 1) true true fields
  | field :: fields => count < 8 && isPiece field && arePieces (count + 1) gap false fields

/-- Whether a text is an address of eight pieces. -/
def isColoned : List Char → Bool
  | [':', ':'] => true
  | ':' :: ':' :: cs => arePieces 1 true true (Text.fields (· == ':') cs)
  | ':' :: _ => false
  | cs => arePieces 0 false false (Text.fields (· == ':') cs)

end CSymbols.Url.Address

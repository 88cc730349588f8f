import CSymbols.Decimal.Double
import CSymbols.Json.Basic

/-! The numbers that JSON literals denote: whole numbers of 64 bits, and doubles for all others. -/
namespace CSymbols.Json

inductive Number where
  | whole (n : Int)
  /-- A double with its sign. -/
  | double (negative : Bool) (magnitude : Decimal.Double)
  deriving DecidableEq, Repr

namespace Number

/-- The parts of a literal: sign, digits before and behind the point, and exponent. -/
structure Parts where
  negative : Bool
  whole : List Char
  places : List Char
  exponent : Int
  isWhole : Bool

def parts (literal : List Char) : Parts :=
  let (negative, cs) := match literal with
    | '-' :: cs => (true, cs)
    | cs => (false, cs)
  let whole := cs.takeWhile Char.isDigit
  let (places, cs) := match cs.dropWhile Char.isDigit with
    | '.' :: cs => (cs.takeWhile Char.isDigit, cs.dropWhile Char.isDigit)
    | cs => ([], cs)
  let exponent : Int := match cs.drop 1 with
    | '-' :: cs => -(CSymbols.Text.decimalValue cs : Int)
    | '+' :: cs => CSymbols.Text.decimalValue cs
    | cs => CSymbols.Text.decimalValue cs
  ⟨negative, whole, places, exponent, places == [] && cs == []⟩

/-- Appends digits to a number as long as it fits in 64 bits, and counts those that are left. -/
def appendDigits (n : Nat) : List Char → Nat × Nat
  | [] => (n, 0)
  | c :: cs =>
    let next := 10 * n + (c.toNat - 48)
    if next < 18446744073709551616 then appendDigits next cs else (n, cs.length + 1)

/-- The double of a literal: its leading digits, as far as they fit in 64 bits, times a power of
ten. Both are rounded, and the product is once more, so that it need not be the nearest double. -/
def magnitude (p : Parts) : Decimal.Double :=
  let (n, skipped) := appendDigits 0 p.whole
  let (n, dropped) := appendDigits n p.places
  let exponent : Int := p.exponent + skipped - p.places.length + dropped
  if n = 0 then ⟨0, 0⟩ else (Decimal.nearest n 1).scale exponent

/-- The number of a literal. A negative zero is a double. -/
def ofLiteral (literal : String) : Number :=
  let p := parts literal.toList
  let n := CSymbols.Text.decimalValue p.whole
  if p.isWhole && !p.negative && n < 18446744073709551616 then .whole n
  else if p.isWhole && p.negative && 0 < n && n ≤ 9223372036854775808 then .whole (-n)
  else .double p.negative (magnitude p)

def signText (negative : Bool) : List Char := if negative then ['-'] else []

/-- A decimal without exponent; a point and a digit behind it are always written. -/
def positional (s : Decimal.Scaled) : List Char :=
  let digits := CSymbols.Text.decimal s.digits
  match s.exponent with
  | .ofNat e => digits ++ List.replicate e '0' ++ ['.', '0']
  | .negSucc e =>
    let digits := List.replicate (e + 2 - digits.length) '0' ++ digits
    digits.take (digits.length - (e + 1)) ++ '.' :: digits.drop (digits.length - (e + 1))

/-- A decimal with an exponent, which always has a sign. -/
def exponential (s : Decimal.Scaled) : List Char :=
  let digits := CSymbols.Text.decimal s.digits
  let e : Int := s.exponent + digits.length - 1
  digits.take 1 ++ (if digits.length = 1 then [] else '.' :: digits.drop 1) ++
    'e' :: (if e < 0 then '-' else '+') :: CSymbols.Text.decimal e.natAbs

/-- The text of a double. From `1e-5` on and below `1e16` it has no exponent. -/
def magnitudeText (x : Decimal.Double) : List Char :=
  if x.isZero then "0.0".toList
  else
    let s := Decimal.shortest x
    let point : Int := s.exponent + (CSymbols.Text.decimal s.digits).length
    if -5 < point && point ≤ 16 then positional s else exponential s

/-- The literal that is written for a number. -/
def literal : Number → String
  | .whole n => match Json.int n with
    | .number text => text
    | _ => ""
  | .double negative x => String.ofList (signText negative ++ magnitudeText x)

/-- How a number is described in an error. -/
def description (n : Number) : String :=
  match n with
  | .whole _ => "integer `" ++ n.literal ++ "`"
  | .double .. => "floating point `" ++ n.literal ++ "`"

end Number

/-- Puts a member into its place among members sorted by key; a later one replaces an earlier one of
the same key. -/
def insertSorted (key : Option String) (v : Json) :
    List (Option String × Json) → List (Option String × Json)
  | [] => [(key, v)]
  | m :: ms =>
    if key.getD "" < m.1.getD "" then (key, v) :: m :: ms
    else if key == m.1 then (key, v) :: ms
    else m :: insertSorted key v ms

/-- Members sorted by key, of each key the last one. -/
def sorted (members : List (Option String × Json)) : List (Option String × Json) :=
  members.foldl (fun sofar m => insertSorted m.1 m.2 sofar) []

mutual

/-- The value with sorted keys, each once, and numbers in the form in which they are written. -/
def canonical : Json → Json
  | .number literal => .number (Number.ofLiteral literal).literal
  | .array items => .array (canonicalItems items)
  | .object members => .object (sorted (canonicalMembers members))
  | v => v

def canonicalItems : List Json → List Json
  | [] => []
  | v :: vs => canonical v :: canonicalItems vs

def canonicalMembers : List (Option String × Json) → List (Option String × Json)
  | [] => []
  | (k, v) :: ms => (k, canonical v) :: canonicalMembers ms

end

end CSymbols.Json

/-! Labels that spell characters outside ASCII with letters, digits and hyphens. Behind the last
hyphen stands a list of numbers, each of which puts a character into the ones before it. -/
namespace CSymbols.Url.Domain.Punycode

/-- The value of a digit of base 36. -/
def digit? (c : Char) : Option Nat :=
  if 'a' ≤ c && c ≤ 'z' then some (c.toNat - 97)
  else if '0' ≤ c && c ≤ '9' then some (c.toNat - 22)
  else none

/-- The least digit, at a place, that is followed by another one. -/
def threshold (place bias : Nat) : Nat :=
  if place ≤ bias then 1 else if bias + 26 ≤ place then 26 else place - bias

/-- The bias that a number leaves behind it. -/
def adapt (delta count : Nat) (first : Bool) : Nat :=
  let delta := if first then delta / 700 else delta / 2
  settle 0 (delta + delta / count)
where
  settle (shift delta : Nat) : Nat :=
    if 455 < delta then settle (shift + 36) (delta / 35) else shift + 36 * delta / (delta + 38)
  termination_by delta
  decreasing_by exact Nat.div_lt_self (by omega) (by omega)

/-- How far a list of numbers has been read. -/
structure State where
  label : List Char
  codePoint : Nat := 128
  bias : Nat := 72
  /-- The place of the last character, and the sum of the digits read since. -/
  place : Nat := 0
  sum : Nat := 0
  weight : Nat := 1
  digitPlace : Nat := 36
  /-- Whether a number is half read. -/
  inside : Bool := false

/-- The bound of all sums and weights. -/
def limit : Nat := 4294967296

/-- Ends a number: its character goes to its place. -/
def State.insert (s : State) : Option State :=
  let count := s.label.length + 1
  let codePoint := s.codePoint + s.sum / count
  let place := s.sum % count
  if codePoint.isValidChar then
    some {
      label := s.label.take place ++ Char.ofNat codePoint :: s.label.drop place
      codePoint
      bias := adapt (s.sum - s.place) count (s.place == 0)
      place := place + 1
      sum := place + 1 }
  else none

/-- Reads a digit. -/
def State.step (s : State) (c : Char) : Option State := do
  let digit ← digit? c
  let sum := s.sum + digit * s.weight
  if limit ≤ sum then none
  let bound := threshold s.digitPlace s.bias
  if digit < bound then State.insert { s with sum := sum }
  else
    let weight := s.weight * (36 - bound)
    if limit ≤ weight then none
    return { s with sum := sum, weight := weight, digitPlace := s.digitPlace + 36, inside := true }

/-- The label that a text of ASCII spells. -/
def decode? (text : List Char) : Option (List Char) := do
  let digits := (text.reverse.takeWhile (· != '-')).reverse
  let basic := text.take (text.length - digits.length - 1)
  let digits := if text.head? == some '-' && basic == [] then text else digits
  let s ← digits.foldlM State.step { label := basic }
  if s.inside then none else return s.label

end CSymbols.Url.Domain.Punycode

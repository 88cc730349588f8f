/-! Doubles as mantissas and exponents: the double nearest to a fraction, products and quotients,
and the shortest decimal that reads back as a double. -/
namespace CSymbols.Decimal

/-- The double `mantissa · 2^exponent`, which is not negative. -/
structure Double where
  mantissa : Nat
  exponent : Int
  deriving DecidableEq, Repr

/-- The number `digits · 10^exponent`. -/
structure Scaled where
  digits : Nat
  exponent : Int
  deriving DecidableEq, Repr

/-- The least exponent of a double. -/
def minExponent : Int := -1074

/-- The least mantissa above the least exponent: 2^52. -/
def minNormal : Nat := 4503599627370496

/-- A quotient rounded to a whole number, half to even. -/
def roundDiv (num den : Nat) : Nat :=
  let k := num / den
  let r := num % den
  if 2 * r < den then k else if den < 2 * r then k + 1 else k + k % 2

/-- A fraction divided by a power of two. -/
def overPower (num den : Nat) : Int → Nat × Nat
  | .ofNat e => (num, den * Nat.pow 2 e)
  | .negSucc e => (num * Nat.pow 2 (e + 1), den)

/-- The double nearest to a positive fraction, half to even, as if there were no largest one. -/
def nearest (num den : Nat) : Double :=
  let guess : Int := max minExponent ((num.log2 : Int) - den.log2 - 52)
  let (n, d) := overPower num den guess
  let e := if n / d < minNormal && minExponent < guess then guess - 1 else guess
  let (n, d) := overPower num den e
  let m := roundDiv n d
  if m = 2 * minNormal then ⟨minNormal, e + 1⟩ else ⟨m, e⟩

namespace Double

def isZero (x : Double) : Bool := x.mantissa == 0

/-- A double as a fraction. -/
def fraction (x : Double) : Nat × Nat := overPower x.mantissa 1 (-x.exponent)

/-- The double nearest to a product. -/
def mul (x y : Double) : Double :=
  let (n, d) := x.fraction
  let (n', d') := y.fraction
  nearest (n * n') (d * d')

/-- The double nearest to a quotient by a double other than zero. -/
def div (x y : Double) : Double :=
  let (n, d) := x.fraction
  let (n', d') := y.fraction
  nearest (n * d') (d * n')

/-- The double nearest to a power of ten. -/
def ten (e : Nat) : Double := nearest (Nat.pow 10 e) 1

/-- The exponent of the largest power of ten that is a double. -/
def maxTen : Nat := 308

/-- Divides by a power of ten, in several steps if it is none of the doubles. Each step rounds. -/
def shrink (x : Double) (e : Nat) : Double :=
  if e ≤ maxTen then x.div (ten e)
  else if x.isZero then x
  else shrink (x.div (ten maxTen)) (e - maxTen)
  termination_by e
  decreasing_by simp only [maxTen] at *; omega

/-- Multiplies by a power of ten, which is at most the largest that is a double. -/
def grow (x : Double) (e : Nat) : Double := x.mul (ten (min e maxTen))

/-- Multiplies or divides by a power of ten. -/
def scale (x : Double) : Int → Double
  | .ofNat e => x.grow e
  | .negSucc e => x.shrink (e + 1)

end Double

/-- A power of ten as a fraction. -/
def tenPower : Int → Nat × Nat
  | .ofNat e => (Nat.pow 10 e, 1)
  | .negSucc e => (1, Nat.pow 10 (e + 1))

/-- The largest exponent, from the given one downwards, for which a power of ten is not above a
fraction. -/
def decimalExponent (num den : Nat) : Nat → Int → Int
  | 0, e => e
  | fuel + 1, e =>
    let (n, d) := tenPower e
    if n * den ≤ num * d then e else decimalExponent num den fuel (e - 1)

/-- A fraction divided by a power of ten. -/
def overTen (num den : Nat) (e : Int) : Nat × Nat :=
  let (n, d) := tenPower e
  (num * d, den * n)

/-- The decimals that read back as a double: those between the middles to its neighbours, which
belong to it if its mantissa is even. The bounds are numerators over `den`. -/
structure Basin where
  value : Nat
  low : Nat
  high : Nat
  den : Nat
  closed : Bool

def basin (x : Double) : Basin :=
  let (n, d) := match x.exponent with
    | .ofNat e => (Nat.pow 2 e, 4)
    | .negSucc e => (1, 4 * Nat.pow 2 (e + 1))
  let below := if x.mantissa = minNormal && minExponent < x.exponent then 1 else 2
  ⟨4 * x.mantissa * n, (4 * x.mantissa - below) * n, (4 * x.mantissa + 2) * n, d,
    x.mantissa % 2 == 0⟩

namespace Basin

def holds (b : Basin) (s : Scaled) : Bool :=
  let (n, d) := tenPower s.exponent
  let v := s.digits * n * b.den
  if b.closed then b.low * d ≤ v && v ≤ b.high * d else b.low * d < v && v < b.high * d

/-- The nearer of the two decimals around the value on the grid of an exponent, if it reads back;
if not, the other, if that one does. Of two that are as near, the even one comes first. -/
def onGrid? (b : Basin) (e : Int) : Option Scaled :=
  let (n, d) := overTen b.value b.den e
  let first : Scaled := ⟨roundDiv n d, e⟩
  let second : Scaled := ⟨2 * (n / d) + 1 - roundDiv n d, e⟩
  if b.holds first then some first else if b.holds second then some second else none

/-- The first grid with a hit, from coarse to fine. -/
def search (b : Basin) : Nat → Int → Scaled
  | 0, e => ⟨(overTen b.value b.den e).1 / (overTen b.value b.den e).2, e⟩
  | fuel + 1, e =>
    match b.onGrid? e with
    | some s => s
    | none => b.search fuel (e - 1)

end Basin

/-- The decimal with the fewest digits that reads back as a double. On the coarsest grid the upper
neighbour may be a power of ten. -/
def shortest (x : Double) : Scaled :=
  let b := basin x
  let s := b.search 20 (decimalExponent b.value b.den 700 310)
  if s.digits = 10 then ⟨1, s.exponent + 1⟩ else s

end CSymbols.Decimal

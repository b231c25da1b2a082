import Subgraph.Decimal

/-!
# Decimal — the nearest double

A double that is not negative is `significand · 2 ^ exponent`, with a significand below `2 ^ 53`
and an exponent of at least -1074; it is at least `2 ^ 52` unless the exponent is the least.
`Decimal.nearest` rounds a decimal to the nearest double, and halfway to the one with the even
significand.
-/

namespace Subgraph

/-- A finite double. -/
structure Double where
  negative : Bool
  significand : Nat
  exponent : Int
  deriving DecidableEq, Repr, Inhabited

namespace Double

def isZero (d : Double) : Bool := d.significand == 0

/-- The doubles are the same number; the two zeros are. -/
def same (a b : Double) : Bool := a == b || (a.isZero && b.isZero)

end Double

namespace Decimal

/-- The quotient of two numbers rounded to the nearest whole one, halfway to the even one. -/
def roundDiv (a b : Nat) : Nat :=
  let q := a / b
  let r := a % b
  if 2 * r < b then q
  else if b < 2 * r then q + 1
  else q + q % 2

/-- The least exponent of a double. -/
def leastExponent : Int := -1074

/-- A fraction as a quotient of whole numbers times a power of two. -/
def scaled (a b : Nat) (exponent : Int) : Nat × Nat :=
  if 0 ≤ exponent then (a, b * twoTo exponent.toNat) else (a * twoTo (-exponent).toNat, b)

/-- The exponent of the double that is nearest to a fraction, before rounding. -/
def doubleExponent (a b : Nat) : Int :=
  let guess : Int := (Nat.log2 a : Int) - Nat.log2 b - 53
  let (x, y) := scaled a b guess
  max leastExponent (if x < twoTo 53 * y then guess else guess + 1)

/-- The nearest double of a fraction: its significand and exponent. -/
def nearestFraction (a b : Nat) : Nat × Int :=
  let e := doubleExponent a b
  let (x, y) := scaled a b e
  let n := roundDiv x y
  if n = twoTo 53 then (twoTo 52, e + 1) else (n, e)

/-- The nearest double of a decimal that does not overflow, with a sign. -/
def nearest (d : Decimal) (negative : Bool) : Double :=
  if d.mantissa = 0 ∨ d.top < -330 then ⟨negative, 0, leastExponent⟩
  else
    let (n, e) :=
      if 0 ≤ d.exponent then nearestFraction (d.mantissa * tenTo d.exponent.toNat) 1
      else nearestFraction d.mantissa (tenTo (-d.exponent).toNat)
    ⟨negative, n, e⟩

end Decimal

end Subgraph

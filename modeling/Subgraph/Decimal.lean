import Subgraph.Power

/-!
# Decimal — decimal numbers and the range of binary floating point

A decimal is `mantissa · 10 ^ exponent`.  A reader that holds numbers as 64-bit floating point has
no place for one beyond the largest double: `Decimal.overflows` says when the nearest double
would be infinite.
-/

namespace Subgraph

/-- The number `mantissa · 10 ^ exponent`. -/
structure Decimal where
  mantissa : Nat
  exponent : Int
  deriving DecidableEq, Repr

namespace Decimal

/-- The value of a row of decimal digits. -/
def digitsValue (digits : List Char) : Nat :=
  digits.foldl (fun n c => 10 * n + (c.toNat - '0'.toNat)) 0

/-- The number with these digits before the point and after it, times a power of ten. -/
def ofDigits (whole fraction : List Char) (exponent : Int) : Decimal :=
  ⟨digitsValue (whole ++ fraction), exponent - fraction.length⟩

/-- The exponent that ends a number, without its letter: digits, perhaps after a sign. -/
def exponent? (text : List Char) : Option Int :=
  let negative := text.head? = some '-'
  let digits := if negative ∨ text.head? = some '+' then text.tail else text
  if digits ≠ [] ∧ digits.all Char.isDigit then
    let e : Int := digitsValue digits
    some (if negative then -e else e)
  else none

/-- A number without a sign: digits, a point that may be missing, and perhaps an exponent.  There
are digits on one side of the point at least. -/
def ofText? (text : List Char) : Option Decimal := do
  let whole := text.takeWhile Char.isDigit
  let rest := text.dropWhile Char.isDigit
  let hasPoint := rest.head? = some '.'
  let fraction := if hasPoint then rest.tail.takeWhile Char.isDigit else []
  let rest := if hasPoint then rest.tail.dropWhile Char.isDigit else rest
  guard (whole ≠ [] ∨ fraction ≠ [])
  match rest with
  | [] => return ofDigits whole fraction 0
  | c :: rest =>
    guard (c = 'e' ∨ c = 'E')
    return ofDigits whole fraction (← exponent? rest)

/-- The least number that rounds beyond the largest double: half a unit of its last place above
it. -/
def doubleBound : Nat := twoTo 1024 - twoTo 970

/-- The number of digits of the mantissa. -/
def size (d : Decimal) : Nat := (Nat.toDigits 10 d.mantissa).length

/-- The exponent `t` for which the number lies between `10 ^ (t - 1)` and `10 ^ t`; meaningful when
the mantissa is not zero. -/
def top (d : Decimal) : Int := d.size + d.exponent

/-- `d` is at least `n`, by whole arithmetic. -/
def atLeast (d : Decimal) (n : Nat) : Bool :=
  if 0 ≤ d.exponent then n ≤ d.mantissa * tenTo d.exponent.toNat
  else n * tenTo (-d.exponent).toNat ≤ d.mantissa

/-- No double is near `d`.  The bound has 309 digits, so only numbers of that size need the
comparison. -/
def overflows (d : Decimal) : Bool :=
  if d.mantissa = 0 then false
  else if d.top < 309 then false
  else if 309 < d.top then true
  else d.atLeast doubleBound

@[simp] theorem overflows_zero (e : Int) : overflows ⟨0, e⟩ = false := rfl

end Decimal

end Subgraph

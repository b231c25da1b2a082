import Subgraph.Decimal.Double

/-!
# Json — numbers as they are written, and their range

A `Numeral` is a number without its sign: digits before the point, digits behind it, and an
exponent.  A reader holds it as a number of 64 bits times a power of ten (`Numeral.held`): of more
digits than fit, those before the point count only by their number, and those behind it do not
count.  `Numeral.overflows` says that the double nearest to that number times the double nearest to
that power is beyond all doubles.
-/

namespace Subgraph.Json

/-- A number without a sign, as it is written. -/
structure Numeral where
  whole : List Char
  fraction : List Char
  exponent : Int
  deriving DecidableEq, Repr

namespace Numeral

/-- A row of digits that is a whole number: no zero stands before another digit. -/
def isWhole : List Char → Bool
  | [] => false
  | ['0'] => true
  | c :: cs => c != '0' && (c :: cs).all Char.isDigit

/-- The fraction digits at the start of a text that follows a whole number, and the rest. -/
def fraction? : List Char → Option (List Char × List Char)
  | '.' :: rest =>
    match rest.takeWhile Char.isDigit with
    | [] => none
    | digits => some (digits, rest.dropWhile Char.isDigit)
  | text => some ([], text)

/-- The number that a whole text is, if it is one. -/
def ofText? (text : List Char) : Option Numeral := do
  let whole := text.takeWhile Char.isDigit
  guard (isWhole whole)
  let (fraction, rest) ← fraction? (text.dropWhile Char.isDigit)
  match rest with
  | [] => return ⟨whole, fraction, 0⟩
  | c :: rest =>
    guard (c = 'e' ∨ c = 'E')
    return ⟨whole, fraction, ← Decimal.exponent? rest⟩

/-! ### The number that is held -/

/-- A number with as many more digits as fit into 64 bits, and the digits that do not. -/
def fill (n : Nat) : List Char → Nat × List Char
  | [] => (n, [])
  | c :: digits =>
    let more := 10 * n + (c.toNat - '0'.toNat)
    if more < twoTo 64 then fill more digits else (n, c :: digits)

/-- The number of 64 bits and the power of ten by which a number is held. -/
def held (n : Numeral) : Decimal :=
  let (whole, passed) := fill 0 n.whole
  let (mantissa, left) := fill whole n.fraction
  ⟨mantissa, n.exponent + passed.length - (n.fraction.length - left.length : Nat)⟩

/-- The nearest double of a whole number, which is whole. -/
def wholeDouble (n : Nat) : Nat :=
  if n < twoTo 53 then n
  else
    let (significand, exponent) := Decimal.nearestFraction n 1
    significand * twoTo exponent.toNat

/-- The greatest power of ten that is not beyond all doubles. -/
def greatestPower : Nat := 308

/-- The number is beyond all doubles.  Numbers below one never are. -/
def overflows (n : Numeral) : Bool :=
  let d := n.held
  d.mantissa != 0 && 0 ≤ d.exponent
    && (greatestPower < d.exponent
      || Decimal.doubleBound ≤ wholeDouble d.mantissa * wholeDouble (tenTo d.exponent.toNat))

end Numeral

end Subgraph.Json

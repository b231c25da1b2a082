import Subgraph.Decimal.Double

/-!
# Decimal — the shortest text of a double

`Double.shortest` is the decimal with the fewest digits that is nearer to a double than to its
neighbours, and of those the nearest; halfway it ends in an even digit.  `Double.text` writes it:
with a point, and in digits from `1e-5` up to `1e16`, else with an exponent.

A grid is the set of multiples of a power of ten.  On each grid the two multiples around the double
are the only ones that can be nearest, so they are tried on finer and finer grids.
-/

namespace Subgraph.Double

/-- The numbers that are nearer to a double than to its neighbours, in quarters of the unit of its
last place. -/
structure Interval where
  low : Nat
  middle : Nat
  high : Nat
  /-- The ends are rounded to the double too. -/
  closed : Bool
  deriving DecidableEq, Repr

/-- The interval of a double; below a power of two the next double is half as far. -/
def interval (d : Double) : Interval where
  low := 4 * d.significand
    - (if d.significand = twoTo 52 ∧ Decimal.leastExponent < d.exponent then 1 else 2)
  middle := 4 * d.significand
  high := 4 * d.significand + 2
  closed := d.significand % 2 == 0

/-- The interval holds `x`, where its own numbers are multiplied by `unit`. -/
def Interval.holds (i : Interval) (unit x : Nat) : Bool :=
  if i.closed then i.low * unit ≤ x && x ≤ i.high * unit
  else i.low * unit < x && x < i.high * unit

/-- The multiple of `10 ^ grid` in the interval of a double that is nearest to it, divided by that
power. -/
def onGrid? (d : Double) (grid : Int) : Option Nat :=
  let i := d.interval
  let quarter := d.exponent - 2
  let step := tenTo grid.toNat * twoTo (-quarter).toNat
  let unit := twoTo quarter.toNat * tenTo (-grid).toNat
  let middle := i.middle * unit
  let below := middle / step
  match i.holds unit (below * step), i.holds unit ((below + 1) * step) with
  | true, true =>
    let left := middle - below * step
    let right := (below + 1) * step - middle
    some (if left < right then below else if right < left then below + 1 else below + below % 2)
  | true, false => some below
  | false, true => some (below + 1)
  | false, false => none

/-- The first hit on the grids from `10 ^ grid` on, each ten times as fine as the one before. -/
def search (d : Double) (grid : Int) : Nat → Decimal
  | 0 => ⟨0, 0⟩
  | n + 1 =>
    match d.onGrid? grid with
    | some m => ⟨m, grid⟩
    | none => search d (grid - 1) n

/-- An exponent of ten that is not below the size of any double. -/
def coarsest : Nat := 309

/-- The shortest decimal of a double that is not zero. -/
def shortest (d : Double) : Decimal := d.search coarsest (coarsest + 324 + 18)

/-- The digits of a decimal without zeros at the end, and the exponent of the last one left. -/
def significant (d : Decimal) : List Char × Int :=
  let digits := Nat.toDigits 10 d.mantissa
  let kept := (digits.reverse.dropWhile (· == '0')).reverse
  (kept, d.exponent + (digits.length - kept.length : Nat))

/-- Digits with a point, or with an exponent; `last` is the exponent of the last digit. -/
def digitsText (digits : List Char) (last : Int) : List Char :=
  let point : Int := digits.length + last
  let zeros := fun (n : Int) => List.replicate n.toNat '0'
  let exponent := 'e' :: (toString (point - 1)).toList
  if 0 ≤ last ∧ point ≤ 16 then digits ++ zeros last ++ ['.', '0']
  else if 0 < point ∧ point ≤ 16 then digits.take point.toNat ++ '.' :: digits.drop point.toNat
  else if -5 < point ∧ point ≤ 0 then '0' :: '.' :: zeros (-point) ++ digits
  else match digits with
    | [digit] => digit :: exponent
    | digit :: digits => digit :: '.' :: digits ++ exponent
    | [] => []

/-- The shortest text of a double. -/
def text (d : Double) : String :=
  let magnitude :=
    if d.isZero then ['0', '.', '0']
    else
      let (digits, last) := significant d.shortest
      digitsText digits last
  String.ofList (if d.negative then '-' :: magnitude else magnitude)

end Subgraph.Double

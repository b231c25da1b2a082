import Mathlib.Algebra.Order.Field.Power
import Mathlib.Data.Rat.Cast.Order
import Mathlib.Tactic.FieldSimp
import Mathlib.Tactic.GCongr
import Mathlib.Tactic.Linarith
import Mathlib.Tactic.Positivity
import Mathlib.Tactic.Ring
import Subgraph.Decimal.Shortest

/-!
# Nearness — the fractions that are near to a double

A fraction is near to a double if it is nearer to it than to both of its neighbours; halfway, if the
significand of the double is even (`Double.IsNear`).  The nearest double of a fraction is one that
the fraction is near to (`isNearNormal_nearestFraction`), and what is found on a grid is near to the
double (`isNear_of_onGrid?`).  A grid that has a number near to the double finds one
(`exists_onGrid?`).

Two fractions that are near to one double are no further apart than a unit of its last place
(`IsNear.sub_le`).
-/

namespace Subgraph

/-! ### Powers -/

theorem cast_twoTo (n : Nat) : (twoTo n : ℚ) = 2 ^ n := Nat.cast_pow 2 n

theorem cast_tenTo (n : Nat) : (tenTo n : ℚ) = 10 ^ n := Nat.cast_pow 10 n

/-- A power as a fraction of powers that are whole. -/
theorem pow_toNat {b : ℚ} (hb : b ≠ 0) (e : Int) : b ^ e.toNat = b ^ e * b ^ (-e).toNat := by
  rw [← zpow_natCast, ← zpow_natCast, ← zpow_add₀ hb]
  congr 1
  omega

namespace Decimal

variable {a b : Nat}

/-! ### Rounding -/

/-- `n` is the whole number nearest to `x`, or halfway the even one. -/
structure IsRounded (n : Nat) (x : ℚ) : Prop where
  least : n - 1 / 2 ≤ x
  most : x ≤ n + 1 / 2
  apart : n % 2 = 1 → x ≠ n - 1 / 2 ∧ x ≠ n + 1 / 2

/-- A quotient is a whole number and a part behind the point, which is compared with one half. -/
theorem exists_part (a : Nat) (hb : 0 < b) : ∃ part : ℚ, (a : ℚ) / b = (a / b : Nat) + part ∧
    (0 ≤ part ∧ part < 1) ∧ (part < 1 / 2 ↔ 2 * (a % b) < b) ∧ (1 / 2 < part ↔ b < 2 * (a % b)) := by
  have pos : (0 : ℚ) < b := by exact_mod_cast hb
  have parts : (a : ℚ) = b * (a / b : Nat) + (a % b : Nat) := by
    exact_mod_cast (Nat.div_add_mod a b).symm
  refine ⟨(a % b : Nat) / b, ?_, ⟨by positivity, ?_⟩, ?_, ?_⟩
  · field_simp
    exact parts
  · rw [div_lt_one pos]
    exact_mod_cast Nat.mod_lt a hb
  · rw [div_lt_iff₀ pos, ← @Nat.cast_lt ℚ]
    push_cast
    constructor <;> intro h <;> linarith
  · rw [lt_div_iff₀ pos, ← @Nat.cast_lt ℚ]
    push_cast
    constructor <;> intro h <;> linarith

theorem isRounded_roundDiv (a : Nat) (hb : 0 < b) : IsRounded (roundDiv a b) (a / b) := by
  obtain ⟨part, whole, ⟨least, most⟩, lower, upper⟩ := exists_part a hb
  rw [whole]
  simp only [roundDiv]
  split
  · next below =>
      have below := lower.mpr below
      exact ⟨by linarith, by linarith, fun _ => ⟨by linarith, by linarith⟩⟩
  split
  · next above =>
      have above := upper.mpr above
      have next : ((a / b + 1 : Nat) : ℚ) = (a / b : Nat) + 1 := Nat.cast_succ _
      exact ⟨by linarith, by linarith, fun _ => ⟨by linarith, by linarith⟩⟩
  · next below above =>
      have tie : part = 1 / 2 :=
        le_antisymm (not_lt.mp fun h => above (upper.mp h)) (not_lt.mp fun h => below (lower.mp h))
      have even : (a / b + a / b % 2) % 2 = 0 := by omega
      have parity : a / b % 2 = 0 ∨ a / b % 2 = 1 := by omega
      refine ⟨?_, ?_, fun odd => by omega⟩ <;>
        rcases parity with h | h <;> rw [h, tie] <;> push_cast <;> linarith

/-! ### The exponent of the nearest double -/

theorem scaled_div (a b : Nat) (e : Int) :
    ((scaled a b e).1 : ℚ) / (scaled a b e).2 = a / b / 2 ^ e := by
  have power := pow_toNat (b := 2) (by norm_num) e
  have inverse := pow_toNat (b := 2) (by norm_num) (-e)
  rw [scaled]
  split
  · next h =>
      rw [show (-e).toNat = 0 by omega, pow_zero, mul_one] at power
      push_cast
      rw [cast_twoTo, power, div_div]
  · next h =>
      rw [neg_neg, show e.toNat = 0 by omega, pow_zero, mul_one] at inverse
      push_cast
      rw [cast_twoTo, inverse, zpow_neg, ← div_eq_mul_inv, div_right_comm]

theorem scaled_pos (a : Nat) (hb : 0 < b) (e : Int) : 0 < (scaled a b e).2 := by
  rw [scaled]
  split
  · exact Nat.mul_pos hb (twoTo_pos _)
  · exact hb

/-- A number between two powers. -/
theorem log2_bounds {n : Nat} (h : 0 < n) :
    (2 : ℚ) ^ n.log2 ≤ n ∧ (n : ℚ) < 2 ^ (n.log2 + 1) := by
  constructor
  · exact_mod_cast Nat.log2_self_le h.ne'
  · exact_mod_cast Nat.lt_log2_self

/-- The sizes of its parts tell that of a fraction, but for a factor of two. -/
theorem div_log2_bounds (ha : 0 < a) (hb : 0 < b) :
    (2 : ℚ) ^ 52 < a / b / 2 ^ ((a.log2 : Int) - b.log2 - 53) ∧
      (a : ℚ) / b / 2 ^ ((a.log2 : Int) - b.log2 - 53) < 2 ^ 54 := by
  obtain ⟨leastA, mostA⟩ := log2_bounds ha
  obtain ⟨leastB, mostB⟩ := log2_bounds hb
  have posB : (0 : ℚ) < b := by exact_mod_cast hb
  have pos : (0 : ℚ) < b * 2 ^ a.log2 := by positivity
  have guess : (2 : ℚ) ^ ((a.log2 : Int) - b.log2 - 53) = 2 ^ a.log2 / 2 ^ b.log2 / 2 ^ 53 := by
    rw [zpow_sub₀ (by norm_num), zpow_sub₀ (by norm_num), zpow_natCast, zpow_natCast]
    rfl
  have quotient : (a : ℚ) / b / (2 ^ a.log2 / 2 ^ b.log2 / 2 ^ 53) =
      a * 2 ^ b.log2 / (b * 2 ^ a.log2) * 2 ^ 53 := by
    field_simp
  have least : (b : ℚ) * 2 ^ a.log2 < 2 * (a * 2 ^ b.log2) :=
    calc (b : ℚ) * 2 ^ a.log2 < 2 ^ (b.log2 + 1) * 2 ^ a.log2 := by gcongr
      _ = 2 * (2 ^ a.log2 * 2 ^ b.log2) := by ring
      _ ≤ 2 * (a * 2 ^ b.log2) := by gcongr
  have most : (a : ℚ) * 2 ^ b.log2 < 2 * (b * 2 ^ a.log2) :=
    calc (a : ℚ) * 2 ^ b.log2 < 2 ^ (a.log2 + 1) * 2 ^ b.log2 := by gcongr
      _ = 2 * (2 ^ b.log2 * 2 ^ a.log2) := by ring
      _ ≤ 2 * (b * 2 ^ a.log2) := by gcongr
  have ratio : (1 : ℚ) / 2 < a * 2 ^ b.log2 / (b * 2 ^ a.log2) ∧
      (a : ℚ) * 2 ^ b.log2 / (b * 2 ^ a.log2) < 2 := by
    rw [lt_div_iff₀ pos, div_lt_iff₀ pos]
    constructor <;> linarith
  rw [guess, quotient]
  constructor <;> linarith

theorem scaled_lt_iff (a : Nat) (hb : 0 < b) (e : Int) :
    (scaled a b e).1 < twoTo 53 * (scaled a b e).2 ↔ (a : ℚ) / b / 2 ^ e < 2 ^ 53 := by
  have pos : (0 : ℚ) < (scaled a b e).2 := by exact_mod_cast scaled_pos a hb e
  rw [← scaled_div, div_lt_iff₀ pos, ← cast_twoTo, ← Nat.cast_mul, Nat.cast_lt]

/-- The significand has 53 bits, unless the exponent would be too small. -/
theorem doubleExponent_bounds (ha : 0 < a) (hb : 0 < b)
    (normal : leastExponent ≤ (a.log2 : Int) - b.log2 - 53) :
    (2 : ℚ) ^ 52 ≤ a / b / 2 ^ doubleExponent a b ∧ (a : ℚ) / b / 2 ^ doubleExponent a b < 2 ^ 53 := by
  obtain ⟨least, most⟩ := div_log2_bounds ha hb
  simp only [doubleExponent, scaled_lt_iff a hb]
  split
  · next small =>
      rw [max_eq_right normal]
      exact ⟨least.le, small⟩
  · next large =>
      rw [max_eq_right (by omega), zpow_add_one₀ (by norm_num), ← div_div]
      constructor <;> linarith

end Decimal

namespace Double

variable {d : Double} {x y : ℚ}

/-- `x` is nearer to a double than to its neighbours, or halfway to one and the significand is
even. -/
structure IsNear (d : Double) (x : ℚ) : Prop where
  low : d.interval.low * (2 : ℚ) ^ (d.exponent - 2) ≤ x
  high : x ≤ d.interval.high * (2 : ℚ) ^ (d.exponent - 2)
  apart : d.interval.closed = false →
    x ≠ d.interval.low * (2 : ℚ) ^ (d.exponent - 2) ∧
      x ≠ d.interval.high * (2 : ℚ) ^ (d.exponent - 2)

/-- The number itself, without its sign. -/
def value (d : Double) : ℚ := d.significand * 2 ^ d.exponent

theorem value_eq (d : Double) : d.value = d.interval.middle * (2 : ℚ) ^ (d.exponent - 2) := by
  rw [value, interval, zpow_sub₀ (by norm_num)]
  push_cast
  ring

/-- The ends of the interval. -/
theorem interval_bounds (pos : 0 < d.significand) :
    (d.interval.low : ℚ) = 4 * d.significand -
        (if d.significand = twoTo 52 ∧ Decimal.leastExponent < d.exponent then 1 else 2) ∧
      (d.interval.high : ℚ) = 4 * d.significand + 2 := by
  constructor
  · rw [interval, Nat.cast_sub (by split <;> omega)]
    push_cast
    rfl
  · rw [interval]
    push_cast
    rfl

theorem IsNear.convex {z : ℚ} (hx : d.IsNear x) (hz : d.IsNear z) (least : x ≤ y) (most : y ≤ z) :
    d.IsNear y := by
  refine ⟨hx.low.trans least, most.trans hz.high, fun h => ⟨?_, ?_⟩⟩
  · rintro rfl
    exact (hx.apart h).1 (le_antisymm least hx.low)
  · rintro rfl
    exact (hz.apart h).2 (le_antisymm hz.high most)

/-- A double is near to itself. -/
theorem isNear_value (pos : 0 < d.significand) : d.IsNear d.value := by
  obtain ⟨low, high⟩ := interval_bounds pos
  have unit : (0 : ℚ) < 2 ^ (d.exponent - 2) := by positivity
  have middle : (d.interval.middle : ℚ) = 4 * d.significand := by
    rw [interval]
    push_cast
    rfl
  have between : (d.interval.low : ℚ) < d.interval.middle ∧
      (d.interval.middle : ℚ) < d.interval.high := by
    rw [low, high, middle]
    constructor
    · split <;> linarith
    · linarith
  have least := mul_lt_mul_of_pos_right between.1 unit
  have most := mul_lt_mul_of_pos_right between.2 unit
  rw [value_eq]
  exact ⟨least.le, most.le, fun _ => ⟨least.ne', most.ne⟩⟩

/-- Fractions near to a double are no further apart than a unit of its last place. -/
theorem IsNear.sub_le (pos : 0 < d.significand) (hx : d.IsNear x) (hy : d.IsNear y) :
    x - y ≤ 2 ^ d.exponent := by
  obtain ⟨low, high⟩ := interval_bounds pos
  have quarter : (2 : ℚ) ^ d.exponent = 4 * 2 ^ (d.exponent - 2) := by
    rw [zpow_sub₀ (by norm_num)]
    ring
  have least : 4 * (d.significand : ℚ) - 2 ≤ d.interval.low := by
    rw [low]
    split <;> linarith
  have unit : (0 : ℚ) ≤ 2 ^ (d.exponent - 2) := by positivity
  calc x - y ≤ (d.interval.high - d.interval.low) * 2 ^ (d.exponent - 2) := by
        rw [sub_mul]
        exact sub_le_sub hx.high hy.low
    _ ≤ 4 * 2 ^ (d.exponent - 2) := by
        refine mul_le_mul_of_nonneg_right ?_ unit
        linarith
    _ = 2 ^ d.exponent := quarter.symm

/-! ### The nearest double -/

/-- What is rounded to the significand is near to the double. -/
theorem isNear_of_isRounded {t : ℚ} (pos : 0 < d.significand)
    (rounded : Decimal.IsRounded d.significand t)
    (first : d.significand = twoTo 52 → (d.significand : ℚ) - 1 / 4 ≤ t) :
    d.IsNear (t * 2 ^ d.exponent) := by
  obtain ⟨low, high⟩ := interval_bounds pos
  have quarters : t * 2 ^ d.exponent = 4 * t * 2 ^ (d.exponent - 2) := by
    rw [zpow_sub₀ (by norm_num)]
    ring
  have unit : (0 : ℚ) < 2 ^ (d.exponent - 2) := by positivity
  obtain ⟨least, most, apart⟩ := rounded
  rw [quarters]
  refine ⟨mul_le_mul_of_nonneg_right ?_ unit.le, mul_le_mul_of_nonneg_right ?_ unit.le,
    fun h => ?_⟩
  · rw [low]
    split
    · next h => linarith [first h.1]
    · linarith
  · linarith
  · have odd : d.significand % 2 = 1 := by
      have odd : d.significand % 2 ≠ 0 := by simpa [interval] using h
      omega
    have other : ¬ (d.significand = twoTo 52 ∧ Decimal.leastExponent < d.exponent) := by
      rintro ⟨h, -⟩
      rw [h] at odd
      revert odd
      decide
    rw [if_neg other] at low
    obtain ⟨apart, apart'⟩ := apart odd
    refine ⟨fun h => apart ?_, fun h => apart' ?_⟩
    all_goals
      have h := mul_right_cancel₀ unit.ne' h
      linarith

/-- `x` is near to a double of which the significand has 53 bits; where it was rounded up to the
least of them, `x` may be a quarter of a unit below. -/
structure IsNearNormal (d : Double) (x : ℚ) : Prop where
  near : d.IsNear x
  pos : 0 < d.significand
  large : ((2 : ℚ) ^ 52 - 1 / 4) * 2 ^ d.exponent ≤ x

theorem isNearNormal_of_isRounded {t : ℚ} (least : 2 ^ 52 ≤ t)
    (rounded : Decimal.IsRounded d.significand t) : d.IsNearNormal (t * 2 ^ d.exponent) := by
  have large : 2 ^ 52 ≤ d.significand := by
    have bound : (2 : ℚ) ^ 52 - 1 / 2 ≤ d.significand := by linarith [rounded.most]
    by_contra small
    have small : (d.significand : ℚ) + 1 ≤ 2 ^ 52 := by exact_mod_cast not_le.mp small
    linarith
  have pos : 0 < d.significand := large.trans_lt' (by decide)
  refine ⟨isNear_of_isRounded pos rounded fun h => ?_, pos, ?_⟩
  · rw [h, cast_twoTo]
    linarith
  · gcongr
    linarith

/-- A significand that is rounded up to 54 bits is halved, and the exponent is one more. -/
theorem isNearNormal_of_carry {t : ℚ} {e : Int} (most : t < 2 ^ 53)
    (rounded : Decimal.IsRounded (twoTo 53) t) (significand : d.significand = twoTo 52)
    (exponent : d.exponent = e + 1) : d.IsNearNormal (t * 2 ^ e) := by
  have pos : 0 < d.significand := significand ▸ twoTo_pos 52
  have even : d.significand % 2 = 0 := by
    rw [significand]
    rfl
  have cast : (d.significand : ℚ) = 2 ^ 52 := by rw [significand, cast_twoTo]
  have half : t * 2 ^ e = t / 2 * 2 ^ d.exponent := by
    rw [exponent, zpow_add_one₀ (by norm_num)]
    ring
  have bound := rounded.least
  rw [cast_twoTo] at bound
  have quarter : (2 : ℚ) ^ 52 - 1 / 4 ≤ t / 2 := by linarith
  rw [half]
  refine ⟨isNear_of_isRounded pos ⟨?_, ?_, fun odd => by omega⟩ fun _ => cast ▸ quarter, pos,
    by gcongr⟩
  · linarith
  · linarith

/-- **A fraction is near to its nearest double**, if that is not too small for 53 bits. -/
theorem isNearNormal_nearestFraction {a b : Nat} (ha : 0 < a) (hb : 0 < b)
    (normal : Decimal.leastExponent ≤ (a.log2 : Int) - b.log2 - 53)
    (same : (d.significand, d.exponent) = Decimal.nearestFraction a b) :
    d.IsNearNormal (a / b) := by
  obtain ⟨least, most⟩ := Decimal.doubleExponent_bounds ha hb normal
  have rounded := Decimal.isRounded_roundDiv (Decimal.scaled a b (Decimal.doubleExponent a b)).1
    (Decimal.scaled_pos a hb (Decimal.doubleExponent a b))
  rw [Decimal.scaled_div] at rounded
  have power : (0 : ℚ) < 2 ^ Decimal.doubleExponent a b := by positivity
  rw [← div_mul_cancel₀ ((a : ℚ) / b) power.ne']
  simp only [Decimal.nearestFraction] at same
  generalize (a : ℚ) / b / 2 ^ Decimal.doubleExponent a b = t at *
  split at same
  · next up =>
      obtain ⟨significand, exponent⟩ := Prod.mk.inj same
      exact isNearNormal_of_carry most (up ▸ rounded) significand exponent
  · obtain ⟨significand, exponent⟩ := Prod.mk.inj same
    rw [← exponent]
    exact isNearNormal_of_isRounded least (significand ▸ rounded)

/-! ### Grids -/

/-- What makes the units of a double and of a grid whole. -/
def gridScale (d : Double) (grid : Int) : ℚ :=
  10 ^ (-grid).toNat * 2 ^ (-(d.exponent - 2)).toNat

theorem gridScale_pos (d : Double) (grid : Int) : 0 < d.gridScale grid := by
  rw [gridScale]
  positivity

/-- A quarter of the unit of a double's last place. -/
theorem cast_unit (d : Double) (grid : Int) :
    ((twoTo (d.exponent - 2).toNat * tenTo (-grid).toNat : Nat) : ℚ) =
      2 ^ (d.exponent - 2) * d.gridScale grid := by
  rw [Nat.cast_mul, cast_twoTo, cast_tenTo, pow_toNat (by norm_num), gridScale]
  ring

/-- The step of a grid. -/
theorem cast_step (d : Double) (grid : Int) :
    ((tenTo grid.toNat * twoTo (-(d.exponent - 2)).toNat : Nat) : ℚ) =
      10 ^ grid * d.gridScale grid := by
  rw [Nat.cast_mul, cast_twoTo, cast_tenTo, pow_toNat (by norm_num), gridScale]
  ring

theorem holds_iff {grid : Int} {unit step : Nat} {scale : ℚ} (pos : 0 < scale)
    (hunit : (unit : ℚ) = 2 ^ (d.exponent - 2) * scale) (hstep : (step : ℚ) = 10 ^ grid * scale)
    (m : Nat) : d.interval.holds unit (m * step) = true ↔ d.IsNear (m * 10 ^ grid) := by
  have le (k : Nat) : k * unit ≤ m * step ↔
      (k : ℚ) * 2 ^ (d.exponent - 2) ≤ m * 10 ^ grid := by
    rw [← @Nat.cast_le ℚ, Nat.cast_mul, Nat.cast_mul, hunit, hstep, ← mul_assoc, ← mul_assoc,
      mul_le_mul_iff_left₀ pos]
  have ge (k : Nat) : m * step ≤ k * unit ↔
      (m : ℚ) * 10 ^ grid ≤ k * 2 ^ (d.exponent - 2) := by
    rw [← @Nat.cast_le ℚ, Nat.cast_mul, Nat.cast_mul, hunit, hstep, ← mul_assoc, ← mul_assoc,
      mul_le_mul_iff_left₀ pos]
  cases closed : d.interval.closed with
  | true =>
      simp only [Interval.holds, closed, if_true, Bool.and_eq_true, decide_eq_true_eq, le, ge]
      exact ⟨fun h => ⟨h.1, h.2, by rw [closed]; nofun⟩, fun h => ⟨h.low, h.high⟩⟩
  | false =>
      simp only [Interval.holds, closed, Bool.false_eq_true, if_false, Bool.and_eq_true,
        decide_eq_true_eq, ← not_le, le, ge]
      simp only [not_le]
      exact ⟨fun h => ⟨h.1.le, h.2.le, fun _ => ⟨h.1.ne', h.2.ne⟩⟩,
        fun h => ⟨lt_of_le_of_ne h.low (h.apart closed).1.symm,
          lt_of_le_of_ne h.high (h.apart closed).2⟩⟩

/-- What a grid finds is one of the two numbers around a double, if one of them is near to it. -/
theorem onGrid?_cases (d : Double) (grid : Int) : ∃ below : Nat,
    (below * (10 : ℚ) ^ grid ≤ d.value ∧ d.value ≤ (below + 1 : Nat) * (10 : ℚ) ^ grid) ∧
      match d.onGrid? grid with
      | some m => d.IsNear (m * 10 ^ grid)
      | none => ¬ d.IsNear (below * 10 ^ grid) ∧ ¬ d.IsNear ((below + 1 : Nat) * 10 ^ grid) := by
  have scale := d.gridScale_pos grid
  have hunit := d.cast_unit grid
  have hstep := d.cast_step grid
  have pos : 0 < tenTo grid.toNat * twoTo (-(d.exponent - 2)).toNat :=
    Nat.mul_pos (tenTo_pos _) (twoTo_pos _)
  simp only [onGrid?]
  generalize twoTo (d.exponent - 2).toNat * tenTo (-grid).toNat = unit at *
  generalize tenTo grid.toNat * twoTo (-(d.exponent - 2)).toNat = step at *
  have scaled (m : Nat) : (m : ℚ) * step = m * 10 ^ grid * d.gridScale grid := by
    rw [hstep]
    ring
  have value : ((d.interval.middle * unit : Nat) : ℚ) = d.value * d.gridScale grid := by
    rw [Nat.cast_mul, hunit, value_eq]
    ring
  refine ⟨d.interval.middle * unit / step, ⟨?_, ?_⟩, ?_⟩
  · refine le_of_mul_le_mul_right ?_ scale
    rw [← scaled, ← value]
    exact_mod_cast Nat.div_mul_le_self _ _
  · refine le_of_mul_le_mul_right ?_ scale
    rw [← scaled, ← value]
    exact_mod_cast ((Nat.div_lt_iff_lt_mul pos).mp (Nat.lt_succ_self _)).le
  · have below := holds_iff scale hunit hstep (d.interval.middle * unit / step)
    have above := holds_iff scale hunit hstep (d.interval.middle * unit / step + 1)
    generalize d.interval.middle * unit / step = n at *
    cases hbelow : d.interval.holds unit (n * step) <;>
      cases habove : d.interval.holds unit ((n + 1) * step)
    · exact ⟨fun h => Bool.eq_false_iff.mp hbelow (below.mpr h),
        fun h => Bool.eq_false_iff.mp habove (above.mpr h)⟩
    · exact above.mp habove
    · exact below.mp hbelow
    · have even : n + n % 2 = n ∨ n + n % 2 = n + 1 := by omega
      dsimp only
      split
      · exact below.mp hbelow
      split
      · exact above.mp habove
      · rcases even with same | same <;> rw [same]
        · exact below.mp hbelow
        · exact above.mp habove

/-- What a grid finds is near to the double. -/
theorem isNear_of_onGrid? {grid : Int} {m : Nat} (h : d.onGrid? grid = some m) :
    d.IsNear (m * 10 ^ grid) := by
  obtain ⟨below, -, found⟩ := d.onGrid?_cases grid
  rw [h] at found
  exact found

/-- A grid finds something if any of its numbers is near. -/
theorem exists_onGrid? {grid : Int} {m : Nat} (pos : 0 < d.significand)
    (near : d.IsNear (m * 10 ^ grid)) : ∃ m', d.onGrid? grid = some m' := by
  obtain ⟨below, ⟨least, most⟩, found⟩ := d.onGrid?_cases grid
  cases h : d.onGrid? grid with
  | some m' => exact ⟨m', rfl⟩
  | none =>
      rw [h] at found
      have power : (0 : ℚ) ≤ 10 ^ grid := by positivity
      rcases Nat.lt_or_ge below m with above | atMost
      · have order : ((below + 1 : Nat) : ℚ) * 10 ^ grid ≤ m * 10 ^ grid :=
          mul_le_mul_of_nonneg_right (by exact_mod_cast above) power
        exact absurd ((isNear_value pos).convex near most order) found.2
      · have order : (m : ℚ) * 10 ^ grid ≤ below * 10 ^ grid :=
          mul_le_mul_of_nonneg_right (by exact_mod_cast atMost) power
        exact absurd (near.convex (isNear_value pos) order least) found.1

/-- **A search stops at the first grid that finds something**, or without a number if none does. -/
theorem search_cases (d : Double) (start : Int) (steps : Nat) :
    (d.search start steps = ⟨0, 0⟩ ∧
        ∀ grid ≤ start, start < grid + steps → d.onGrid? grid = none) ∨
      ∃ m grid, d.search start steps = ⟨m, grid⟩ ∧ d.onGrid? grid = some m ∧
        ∀ coarser ≤ start, grid < coarser → d.onGrid? coarser = none := by
  induction steps generalizing start with
  | zero => exact .inl ⟨rfl, fun grid least enough => by omega⟩
  | succ steps ih =>
      rw [search]
      cases found : d.onGrid? start with
      | some m => exact .inr ⟨m, start, rfl, found, fun coarser most least => by omega⟩
      | none =>
          have first {grid : Int} (most : grid ≤ start) (h : grid ≤ start - 1 → d.onGrid? grid = none) :
              d.onGrid? grid = none := by
            rcases eq_or_lt_of_le most with rfl | finer
            · exact found
            · exact h (by omega)
          rcases ih (start - 1) with ⟨nothing, others⟩ | ⟨m, grid, result, hit, others⟩
          · exact .inl ⟨nothing, fun grid most enough => first most fun most =>
              others grid most (by omega)⟩
          · exact .inr ⟨m, grid, result, hit, fun coarser most least => first most fun most =>
              others coarser most least⟩

/-- The shortest decimal is near to the double, and on no finer grid than any number near to it. -/
theorem shortest_of_isNear {grid : Int} {m : Nat} (pos : 0 < d.significand)
    (near : d.IsNear (m * 10 ^ grid)) (most : grid ≤ coarsest) (least : -342 < grid) :
    grid ≤ d.shortest.exponent ∧ d.IsNear (d.shortest.mantissa * 10 ^ d.shortest.exponent) := by
  obtain ⟨found, hit⟩ := exists_onGrid? pos near
  rw [shortest]
  rcases d.search_cases coarsest (coarsest + 324 + 18) with
    ⟨-, others⟩ | ⟨n, first, result, first_hit, others⟩
  · rw [others grid most (by simp only [coarsest] at *; omega)] at hit
    cases hit
  · rw [result]
    refine ⟨?_, isNear_of_onGrid? first_hit⟩
    by_contra finer
    rw [others grid most (not_le.mp finer)] at hit
    cases hit

/-- Nothing near to a double is zero, so the shortest decimal is zero only if no grid has found
anything. -/
theorem shortest_cases (pos : 0 < d.significand) :
    d.shortest = ⟨0, 0⟩ ∨ 0 < d.shortest.mantissa := by
  rcases d.search_cases coarsest (coarsest + 324 + 18) with ⟨nothing, -⟩ | ⟨n, grid, result, hit, -⟩
  · exact .inl nothing
  · refine .inr (Nat.pos_of_ne_zero fun zero => ?_)
    rw [shortest, result] at zero
    have near := (isNear_of_onGrid? hit).low
    have zero : n = 0 := zero
    have unit : (0 : ℚ) < 2 ^ (d.exponent - 2) := by positivity
    have least : (1 : ℚ) ≤ d.significand := by exact_mod_cast pos
    have low : (0 : ℚ) < d.interval.low := by
      rw [(interval_bounds pos).1]
      split <;> linarith
    rw [zero, Nat.cast_zero, zero_mul] at near
    exact absurd (mul_pos low unit) (not_lt.mpr near)

end Double

end Subgraph

import Mathlib.Data.List.DropRight
import Mathlib.Tactic.MkIffOfInductiveProp
import Mathlib.Tactic.NormNum
import Subgraph.Proofs.Nearness
import Subgraph.Proofs.Numerals

/-!
# ShortDecimals — which texts a double gives back

A decimal with at most fifteen digits is the shortest one of its nearest double, up to zeros at the
end (`shortest_nearest`).  So its text comes back from the double just if it has the form that all
texts of doubles have without an exponent (`text_nearest_iff`): no needless zero, a digit on both
sides of the point, and not too many zeros behind it (`IsCanonical`).
-/

namespace Subgraph

theorem log2_lt {n k : Nat} (pos : 0 < n) (h : n < twoTo k) : n.log2 < k :=
  (Nat.log2_lt pos.ne').mpr h

/-! ### The shortest decimal -/

namespace Decimal

variable {d : Decimal}

/-- The number itself. -/
def value (d : Decimal) : ℚ := d.mantissa * 10 ^ d.exponent

/-- A decimal as a fraction, of which the nearest double is asked. -/
theorem exists_nearestFraction (pos : 0 < d.mantissa) (least : -307 ≤ d.exponent)
    (negative : Bool) : ∃ a b : Nat, 0 < a ∧ 0 < b ∧ (a : ℚ) / b = d.value ∧
      leastExponent ≤ (a.log2 : Int) - b.log2 - 53 ∧
      ((d.nearest negative).significand, (d.nearest negative).exponent) = nearestFraction a b := by
  have size : 0 < d.size := List.length_pos_of_ne_nil Nat.toDigits_ne_nil
  have given : ¬ (d.mantissa = 0 ∨ d.top < -330) := by
    rw [top]
    omega
  rw [nearest, if_neg given]
  have power := pow_toNat (b := 10) (by norm_num) d.exponent
  have inverse := pow_toNat (b := 10) (by norm_num) (-d.exponent)
  by_cases whole : 0 ≤ d.exponent
  · rw [if_pos whole]
    rw [show (-d.exponent).toNat = 0 by omega, pow_zero, mul_one] at power
    refine ⟨_, 1, Nat.mul_pos pos (tenTo_pos d.exponent.toNat), Nat.one_pos, ?_, ?_, rfl⟩
    · rw [value, Nat.cast_mul, cast_tenTo, power, Nat.cast_one, div_one]
    · have one : Nat.log2 1 = 0 := rfl
      rw [leastExponent, one]
      omega
  · rw [if_neg whole]
    rw [neg_neg, show d.exponent.toNat = 0 by omega, pow_zero, mul_one] at inverse
    refine ⟨_, _, pos, tenTo_pos (-d.exponent).toNat, ?_, ?_, rfl⟩
    · rw [value, cast_tenTo, inverse, zpow_neg, div_inv_eq_mul]
    · have order : tenTo (-d.exponent).toNat ≤ tenTo 307 := tenTo_mono (by omega)
      have bound : tenTo 307 < twoTo 1022 := by decide +kernel
      have bound := log2_lt (tenTo_pos _) (order.trans_lt bound)
      rw [leastExponent]
      omega

/-- A decimal is near to its nearest double. -/
theorem isNearNormal_nearest (pos : 0 < d.mantissa) (least : -307 ≤ d.exponent) (negative : Bool) :
    (d.nearest negative).IsNearNormal d.value := by
  obtain ⟨a, b, ha, hb, value, normal, same⟩ := exists_nearestFraction pos least negative
  rw [← value]
  exact Double.isNearNormal_nearestFraction ha hb normal same

/-- **A short decimal is the shortest one of its nearest double**, up to zeros at its end. -/
theorem shortest_nearest (pos : 0 < d.mantissa) (short : d.mantissa < tenTo 15)
    (least : -307 ≤ d.exponent) (most : d.exponent ≤ 309) (negative : Bool) :
    ∃ i : Nat, d.mantissa = (d.nearest negative).shortest.mantissa * tenTo i ∧
      (d.nearest negative).shortest.exponent = d.exponent + i := by
  obtain ⟨near, some, large⟩ := isNearNormal_nearest pos least negative
  generalize d.nearest negative = double at *
  obtain ⟨coarser, near'⟩ := Double.shortest_of_isNear some near most (by omega)
  obtain ⟨i, grid⟩ := Int.le.dest coarser
  refine ⟨i, ?_, grid.symm⟩
  have unit : (0 : ℚ) < 10 ^ d.exponent := by positivity
  have shifted : (double.shortest.mantissa : ℚ) * 10 ^ double.shortest.exponent =
      (double.shortest.mantissa * tenTo i : Nat) * 10 ^ d.exponent := by
    rw [← grid, zpow_add₀ (by norm_num), Nat.cast_mul, cast_tenTo, zpow_natCast]
    ring
  rw [shifted] at near'
  -- A unit of the double's last place is less than one of the decimal's.
  have narrow : (2 : ℚ) ^ double.exponent < 10 ^ d.exponent := by
    have bound : (d.mantissa : ℚ) < 10 ^ 15 := by
      rw [← cast_tenTo]
      exact_mod_cast short
    have most : d.value < (2 ^ 52 - 1 / 4) * 10 ^ d.exponent :=
      mul_lt_mul_of_pos_right (bound.trans (by norm_num)) unit
    exact lt_of_mul_lt_mul_left (large.trans_lt most) (by norm_num)
  have closer {n m : Nat} (hn : double.IsNear (n * 10 ^ d.exponent))
      (hm : double.IsNear (m * 10 ^ d.exponent)) : n ≤ m := by
    have apart := (hn.sub_le some hm).trans_lt narrow
    rw [← sub_mul] at apart
    have apart : (n : ℚ) - m < 1 := lt_of_mul_lt_mul_right (by rwa [one_mul]) unit.le
    have apart : (n : ℚ) < (m + 1 : Nat) := by
      push_cast
      linarith
    exact Nat.lt_succ_iff.mp (by exact_mod_cast apart)
  exact le_antisymm (closer near near') (closer near' near)

/-! ### Zeros at the ends -/

/-- Digits that neither begin nor end with a zero. -/
structure IsCore (digits : List Char) : Prop where
  areDigits : IsDigits digits
  first : digits.head? ≠ some '0'
  last : digits.getLast? ≠ some '0'

/-- Some zeros. -/
def zeros (n : Nat) : List Char := List.replicate n '0'

variable {text : List Char}

theorem exists_core_append (digits : IsDigits text) (first : text.head? ≠ some '0') :
    ∃ core n, text = core ++ zeros n ∧ IsCore core := by
  induction text using List.reverseRecOn with
  | nil => exact absurd rfl digits.some
  | append_singleton text c ih =>
      by_cases zero : c = '0'
      · subst zero
        have some : text ≠ [] := by
          rintro rfl
          exact first rfl
        obtain ⟨core, n, rfl, isCore⟩ := ih
          ⟨some, fun c hc => digits.digits c (List.mem_append_left _ hc)⟩
          (by rwa [List.head?_append_of_ne_nil _ some] at first)
        exact ⟨core, n + 1, by rw [zeros, zeros, List.append_assoc, List.replicate_succ'], isCore⟩
      · exact ⟨text ++ [c], 0, (List.append_nil _).symm, digits, first, by simpa using zero⟩

theorem exists_core_behind (digits : IsDigits text) (last : text.getLast? ≠ some '0') :
    ∃ core n, text = zeros n ++ core ∧ IsCore core := by
  induction text with
  | nil => exact absurd rfl digits.some
  | cons c text ih =>
      by_cases zero : c = '0'
      · subst zero
        have some : text ≠ [] := by
          rintro rfl
          exact last rfl
        obtain ⟨core, n, rfl, isCore⟩ := ih
          ⟨some, fun c hc => digits.digits c (List.mem_cons_of_mem _ hc)⟩
          (by rwa [List.getLast?_cons_of_ne_nil some] at last)
        exact ⟨core, n + 1, rfl, isCore⟩
      · exact ⟨c :: text, 0, rfl, digits, by simpa using zero, last⟩

theorem digitsValue_zeros_append (n : Nat) (text : List Char) :
    digitsValue (zeros n ++ text) = digitsValue text := by
  induction n with
  | zero => rfl
  | succ n ih => exact ih

theorem digitsValue_append_zeros (text : List Char) (n : Nat) :
    digitsValue (text ++ zeros n) = digitsValue text * tenTo n := by
  induction n with
  | zero => rw [zeros, List.replicate_zero, List.append_nil, tenTo_zero, Nat.mul_one]
  | succ n ih =>
      rw [zeros, List.replicate_succ', ← List.append_assoc, digitsValue_concat, ← zeros, ih,
        tenTo_succ, Nat.sub_self]
      ring

theorem isDigit_of_mem_zeros {n : Nat} {c : Char} (h : c ∈ zeros n) : c.isDigit = true := by
  rw [List.eq_of_mem_replicate h]
  rfl

theorem takeWhile_zeros {n : Nat} (first : text.head? ≠ some '0') :
    (zeros n ++ text).takeWhile (· == '0') = zeros n := by
  have other : text.takeWhile (· == '0') = [] := by
    cases text with
    | nil => rfl
    | cons c text =>
        exact List.takeWhile_cons_of_neg fun zero => first (congrArg some (beq_iff_eq.mp zero))
  rw [List.takeWhile_append_of_pos fun c hc => beq_iff_eq.mpr (List.eq_of_mem_replicate hc), other,
    List.append_nil]

end Decimal

namespace Double

open Decimal

/-- The significant digits are what is left without zeros at the ends. -/
theorem significant_core {core : List Char} (h : IsCore core) (n : Nat) (e : Int) :
    significant ⟨digitsValue (core ++ zeros n), e⟩ = (core, e + n) := by
  have zero : ∀ c ∈ zeros n, (c == '0') = true := fun c hc =>
    beq_iff_eq.mpr (List.eq_of_mem_replicate hc)
  have digits : IsDigits (core ++ zeros n) :=
    ⟨List.append_ne_nil_of_left_ne_nil h.areDigits.some _, fun c hc =>
      (List.mem_append.mp hc).elim (h.areDigits.digits c) isDigit_of_mem_zeros⟩
  have written : Nat.toDigits 10 (digitsValue (core ++ zeros n)) = core ++ zeros n :=
    toDigits_digitsValue digits (by
      rw [List.head?_append_of_ne_nil _ h.areDigits.some]
      exact h.first)
  have kept : ((core ++ zeros n).reverse.dropWhile (· == '0')).reverse = core := by
    rw [List.reverse_append, List.dropWhile_append_of_pos fun d hd => zero d (List.mem_reverse.mp hd)]
    refine List.rdropWhile_eq_self_iff.mpr fun some zero => h.last ?_
    rw [List.getLast?_eq_some_getLast some, beq_iff_eq.mp zero]
  have left : (core ++ zeros n).length - core.length = n := by
    rw [List.length_append, Nat.add_sub_cancel_left, zeros, List.length_replicate]
  simp only [significant, written, kept, left]

/-- They do not depend on how many zeros are written. -/
theorem significant_mul {m : Nat} (pos : 0 < m) (i : Nat) (e : Int) :
    significant ⟨m * tenTo i, e⟩ = significant ⟨m, e + i⟩ := by
  obtain ⟨core, n, digits, isCore⟩ :=
    exists_core_append (isDigits_toDigits m) (head_toDigits pos)
  have value : m = digitsValue (core ++ zeros n) := by rw [← digits, digitsValue_toDigits]
  have longer : m * tenTo i = digitsValue (core ++ zeros (n + i)) := by
    rw [value, ← digitsValue_append_zeros, List.append_assoc, zeros, zeros, zeros,
      List.replicate_append_replicate]
  rw [longer, significant_core isCore, value, significant_core isCore]
  congr 1
  push_cast
  omega

/-! ### The texts of doubles -/

variable {whole fraction : List Char}

/-- A number in digits as doubles are written: neither part has a needless zero, at most sixteen
digits stand before the point, and at most four zeros behind it if there is just a zero before. -/
@[mk_iff]
structure IsCanonical (whole fraction : List Char) : Prop where
  short : whole.length ≤ 16
  before : whole = ['0'] ∨ whole.head? ≠ some '0'
  behind : fraction = ['0'] ∨ fraction.getLast? ≠ some '0'
  near : whole = ['0'] → (fraction.takeWhile (· == '0')).length < 5

instance (whole fraction : List Char) : Decidable (IsCanonical whole fraction) :=
  decidable_of_iff _ (isCanonical_iff whole fraction).symm

/-- Two texts are the same around their first point. -/
theorem eq_of_append_point {x y r s : List Char} (hx : ∀ c ∈ x, c.isDigit = true)
    (hy : ∀ c ∈ y, c.isDigit = true) (h : x ++ '.' :: r = y ++ '.' :: s) : x = y ∧ r = s := by
  have first {x r : List Char} (hx : ∀ c ∈ x, c.isDigit = true) :
      (x ++ '.' :: r).takeWhile Char.isDigit = x := by
    rw [List.takeWhile_append_of_pos hx]
    exact List.append_nil x
  have same : x = y := by rw [← first hx, h, first hy]
  subst same
  exact ⟨rfl, List.tail_eq_of_cons_eq (List.append_cancel_left h)⟩

section

variable {digits : List Char}

theorem digitsText_whole {n : Nat} (short : digits.length + n ≤ 16) :
    digitsText digits n = digits ++ zeros n ++ ['.', '0'] := by
  have first : 0 ≤ (n : Int) ∧ (digits.length : Int) + n ≤ 16 := by omega
  simp only [digitsText]
  rw [if_pos first]
  rfl

theorem digitsText_inside {before behind : List Char} (some : before ≠ []) (some' : behind ≠ [])
    (short : before.length ≤ 16) :
    digitsText (before ++ behind) (-behind.length) = before ++ '.' :: behind := by
  have lengths := List.length_pos_of_ne_nil some
  have lengths' := List.length_pos_of_ne_nil some'
  have point : ((before ++ behind).length : Int) + -behind.length = before.length := by
    rw [List.length_append]
    omega
  have first : ¬ (0 ≤ -(behind.length : Int) ∧ (before.length : Int) ≤ 16) := by omega
  have second : 0 < (before.length : Int) ∧ (before.length : Int) ≤ 16 := by omega
  simp only [digitsText]
  rw [point, if_neg first, if_pos second, Int.toNat_natCast, List.take_left, List.drop_left]

theorem digitsText_near (some : digits ≠ []) {n : Nat} (near : n < 5) :
    digitsText digits (-(n + digits.length : Nat)) = '0' :: '.' :: (zeros n ++ digits) := by
  have some := List.length_pos_of_ne_nil some
  have point : (digits.length : Int) + -(n + digits.length : Nat) = -n := by omega
  have first : ¬ (0 ≤ (-(n + digits.length : Nat) : Int) ∧ -(n : Int) ≤ 16) := by omega
  have second : ¬ (0 < -(n : Int) ∧ -(n : Int) ≤ 16) := by omega
  have third : -5 < -(n : Int) ∧ -(n : Int) ≤ 0 := by omega
  simp only [digitsText]
  rw [point, if_neg first, if_neg second, if_pos third, neg_neg, Int.toNat_natCast]
  rfl

/-- Where the point stands: behind all digits, among them, before them, or there is an exponent. -/
theorem digitsText_cases (some : digits ≠ []) (last : Int) :
    (∃ n : Nat, digits.length + n ≤ 16 ∧
        digitsText digits last = digits ++ zeros n ++ ['.', '0']) ∨
      (∃ before behind, digits = before ++ behind ∧ before ≠ [] ∧ behind ≠ [] ∧
        before.length ≤ 16 ∧ digitsText digits last = before ++ '.' :: behind) ∨
      (∃ n < 5, digitsText digits last = '0' :: '.' :: (zeros n ++ digits)) ∨
      'e' ∈ digitsText digits last := by
  have length := List.length_pos_of_ne_nil some
  by_cases first : 0 ≤ last ∧ digits.length + last ≤ 16
  · obtain ⟨n, rfl⟩ := Int.eq_ofNat_of_zero_le first.1
    have short : digits.length + n ≤ 16 := by omega
    exact .inl ⟨n, short, digitsText_whole short⟩
  by_cases second : 0 < digits.length + last ∧ digits.length + last ≤ 16
  · obtain ⟨n, point⟩ := Int.eq_ofNat_of_zero_le second.1.le
    have split : digits = digits.take n ++ digits.drop n := (List.take_append_drop n digits).symm
    have front : (digits.take n).length = n := List.length_take_of_le (by omega)
    have back : (digits.drop n).length = digits.length - n := List.length_drop
    have some' : digits.take n ≠ [] := List.ne_nil_of_length_pos (by omega)
    have some'' : digits.drop n ≠ [] := List.ne_nil_of_length_pos (by omega)
    have place : last = -(digits.drop n).length := by omega
    refine .inr (.inl ⟨_, _, split, some', some'', by omega, ?_⟩)
    have text := digitsText_inside some' some'' (by omega)
    rwa [← split, ← place] at text
  by_cases third : -5 < digits.length + last ∧ digits.length + last ≤ 0
  · obtain ⟨n, point⟩ := Int.eq_ofNat_of_zero_le (neg_nonneg.mpr third.2)
    have near : n < 5 := by omega
    have place : last = -(n + digits.length : Nat) := by omega
    exact .inr (.inr (.inl ⟨n, near, by rw [place, digitsText_near some near]⟩))
  · refine .inr (.inr (.inr ?_))
    simp only [digitsText]
    rw [if_neg first, if_neg second, if_neg third]
    rcases digits with _ | ⟨c, _ | ⟨c', rest⟩⟩
    · exact absurd rfl some
    · simp
    · simp

end

/-- The text of a canonical number. -/
theorem digitsText_of_isCanonical (hw : IsDigits whole) (hf : IsDigits fraction)
    (h : IsCanonical whole fraction) (pos : 0 < digitsValue (whole ++ fraction)) :
    digitsText (significant (ofDigits whole fraction 0)).1
      (significant (ofDigits whole fraction 0)).2 = whole ++ '.' :: fraction := by
  rw [ofDigits, zero_sub]
  rcases h.before with rfl | first <;> rcases h.behind with rfl | last
  · exact absurd pos (by decide)
  · obtain ⟨core, n, rfl, isCore⟩ := exists_core_behind hf last
    have near := h.near rfl
    rw [takeWhile_zeros isCore.first, zeros, List.length_replicate] at near
    have value : digitsValue (['0'] ++ (zeros n ++ core)) = digitsValue (core ++ zeros 0) := by
      rw [zeros, zeros, List.replicate_zero, List.append_nil]
      exact digitsValue_zeros_append (n + 1) core
    have length : (zeros n ++ core).length = n + core.length := by
      rw [List.length_append, zeros, List.length_replicate]
    rw [value, significant_core isCore, length, Nat.cast_zero, add_zero]
    exact digitsText_near isCore.areDigits.some near
  · obtain ⟨core, n, rfl, isCore⟩ := exists_core_append hw first
    have longer : core ++ zeros n ++ ['0'] = core ++ zeros (n + 1) := by
      rw [zeros, zeros, List.replicate_succ', List.append_assoc]
    have short := h.short
    rw [List.length_append, zeros, List.length_replicate] at short
    have last : -((['0'] : List Char).length : Int) + (n + 1 : Nat) = n := by
      rw [List.length_singleton]
      omega
    rw [longer, significant_core isCore, last, digitsText_whole short]
  · have isCore : IsCore (whole ++ fraction) := by
      refine ⟨⟨List.append_ne_nil_of_left_ne_nil hw.some _, fun c hc => ?_⟩, ?_, ?_⟩
      · exact (List.mem_append.mp hc).elim (hw.digits c) (hf.digits c)
      · rwa [List.head?_append_of_ne_nil _ hw.some]
      · rwa [List.getLast?_append_of_ne_nil _ hf.some]
    have text := significant_core isCore 0 (-fraction.length)
    rw [zeros, List.replicate_zero, List.append_nil] at text
    rw [text, Nat.cast_zero, add_zero]
    exact digitsText_inside hw.some hf.some h.short

/-- What is written without an exponent is canonical. -/
theorem isCanonical_of_digitsText {digits : List Char} {last : Int} (core : IsCore digits)
    (hw : IsDigits whole) (hf : IsDigits fraction)
    (h : digitsText digits last = whole ++ '.' :: fraction) : IsCanonical whole fraction := by
  have some := core.areDigits.some
  rcases digitsText_cases some last with
    ⟨n, short, text⟩ | ⟨before, behind, rfl, some', some'', short, text⟩ | ⟨n, near, text⟩ | exponent
  · have text : digits ++ zeros n ++ '.' :: ['0'] = whole ++ '.' :: fraction := text.symm.trans h
    obtain ⟨rfl, rfl⟩ := eq_of_append_point
      (fun c hc => (List.mem_append.mp hc).elim (core.areDigits.digits c) isDigit_of_mem_zeros)
      hw.digits text
    refine ⟨?_, .inr ?_, .inl rfl, fun _ => by decide⟩
    · rwa [List.length_append, zeros, List.length_replicate]
    · rw [List.head?_append_of_ne_nil _ some]
      exact core.first
  · obtain ⟨rfl, rfl⟩ := eq_of_append_point
      (fun c hc => core.areDigits.digits c (List.mem_append_left _ hc)) hw.digits (text.symm.trans h)
    have first := core.first
    rw [List.head?_append_of_ne_nil _ some'] at first
    refine ⟨short, .inr first, .inr ?_, fun zero => absurd (zero ▸ rfl) first⟩
    have last := core.last
    rwa [List.getLast?_append_of_ne_nil _ some''] at last
  · have text : ['0'] ++ '.' :: (zeros n ++ digits) = whole ++ '.' :: fraction := text.symm.trans h
    obtain ⟨rfl, rfl⟩ := eq_of_append_point (List.forall_mem_singleton.mpr rfl) hw.digits text
    refine ⟨by decide, .inl rfl, .inr ?_, fun _ => ?_⟩
    · rw [List.getLast?_append_of_ne_nil _ some]
      exact core.last
    · rwa [takeWhile_zeros core.first, zeros, List.length_replicate]
  · rw [h] at exponent
    rcases List.mem_append.mp exponent with mem | mem
    · exact absurd (hw.digits _ mem) (by decide)
    · rcases List.mem_cons.mp mem with point | mem
      · exact absurd point (by decide)
      · exact absurd (hf.digits _ mem) (by decide)

/-! ### What comes back -/

/-- **A short decimal is written with its own digits.** -/
theorem text_nearest {d : Decimal} (pos : 0 < d.mantissa) (short : d.mantissa < tenTo 15)
    (least : -307 ≤ d.exponent) (most : d.exponent ≤ 309) :
    (d.nearest false).text =
      String.ofList (digitsText (significant d).1 (significant d).2) := by
  obtain ⟨i, mantissa, exponent⟩ := shortest_nearest pos short least most false
  have some := (isNearNormal_nearest pos least false).pos
  have positive : (d.nearest false).negative = false := by
    rw [nearest]
    split <;> rfl
  have nonzero : (d.nearest false).isZero = false := beq_false_of_ne some.ne'
  have kept : 0 < (d.nearest false).shortest.mantissa := by
    refine Nat.pos_of_ne_zero fun zero => ?_
    rw [zero, Nat.zero_mul] at mantissa
    omega
  have same : significant (d.nearest false).shortest = significant d := by
    have shifted := significant_mul kept i d.exponent
    rw [← mantissa, ← exponent] at shifted
    exact shifted.symm
  simp only [text, positive, nonzero, same, Bool.false_eq_true, if_false]

/-- A double that is written without an exponent is written as a canonical number. -/
theorem isCanonical_of_text {d : Double} (hw : IsDigits whole) (hf : IsDigits fraction)
    (h : d.text = String.ofList (whole ++ '.' :: fraction)) : IsCanonical whole fraction := by
  have zero (h : ['0', '.', '0'] = whole ++ '.' :: fraction) : IsCanonical whole fraction := by
    obtain ⟨rfl, rfl⟩ := eq_of_append_point (x := ['0']) (List.forall_mem_singleton.mpr rfl) hw.digits h
    exact ⟨by decide, .inl rfl, .inl rfl, fun _ => by decide⟩
  have h := congrArg String.toList h
  rw [text, String.toList_ofList, String.toList_ofList] at h
  split at h
  · obtain ⟨c, rest, rfl⟩ := List.exists_cons_of_ne_nil hw.some
    have digit := hw.digits c List.mem_cons_self
    rw [← (List.cons.inj h).1] at digit
    cases digit
  split at h
  · exact zero h
  · next nonzero =>
      have pos : 0 < d.significand := Nat.pos_of_ne_zero fun zero => nonzero (beq_iff_eq.mpr zero)
      rcases shortest_cases pos with nothing | pos
      · rw [nothing] at h
        exact zero h
      · obtain ⟨core, n, digits, isCore⟩ :=
          exists_core_append (isDigits_toDigits d.shortest.mantissa) (head_toDigits pos)
        have value : d.shortest = ⟨digitsValue (core ++ zeros n), d.shortest.exponent⟩ := by
          rw [← digits, digitsValue_toDigits]
        rw [value, significant_core isCore] at h
        exact isCanonical_of_digitsText isCore hw hf h

/-- **The numbers in at most fifteen digits that come back as they are** are the canonical ones. -/
theorem text_nearest_iff (hw : IsDigits whole) (hf : IsDigits fraction)
    (short : whole.length + fraction.length ≤ 15) :
    ((ofDigits whole fraction 0).nearest false).text = String.ofList (whole ++ '.' :: fraction) ↔
      IsCanonical whole fraction := by
  refine ⟨isCanonical_of_text hw hf, fun h => ?_⟩
  have digits : ∀ c ∈ whole ++ fraction, c.isDigit = true := fun c hc =>
    (List.mem_append.mp hc).elim (hw.digits c) (hf.digits c)
  rcases Nat.eq_zero_or_pos (digitsValue (whole ++ fraction)) with zero | pos
  · rcases h.before with rfl | first
    · rcases h.behind with rfl | last
      · rfl
      · obtain ⟨core, n, rfl, isCore⟩ := exists_core_behind hf last
        have value : digitsValue (['0'] ++ (zeros n ++ core)) = digitsValue core :=
          digitsValue_zeros_append (n + 1) core
        exact absurd (value ▸ zero) (digitsValue_pos isCore.areDigits isCore.first).ne'
    · have pos := digitsValue_pos (t := whole ++ fraction)
        ⟨List.append_ne_nil_of_left_ne_nil hw.some _, digits⟩
        (by rwa [List.head?_append_of_ne_nil _ hw.some])
      exact absurd zero pos.ne'
  · have small : (ofDigits whole fraction 0).mantissa < tenTo 15 :=
      (digitsValue_lt digits).trans_le (tenTo_mono (by rwa [List.length_append]))
    have exponent : (ofDigits whole fraction 0).exponent = -fraction.length := zero_sub _
    rw [text_nearest pos small (by omega) (by omega), digitsText_of_isCanonical hw hf h pos]

end Double

end Subgraph

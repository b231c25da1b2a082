import Mathlib.Data.List.Basic
import Mathlib.Data.List.Induction
import Mathlib.Data.List.TakeWhile
import Mathlib.Data.Option.Basic
import Subgraph.Yaml.Scalar

/-!
# Numerals — rows of decimal digits

A row of digits is a number to the reader of scalars unless it is padded, that is, unless it begins
with a zero too many (`natural?_of_isDigits`).  The rows that are not padded are those that numbers
are written with (`toDigits_digitsValue`, `natural?_toDigits`); no double is written with digits
alone (`not_isDigits_text`).

With a point a text is no integer any more, but a decimal if there are digits on both sides, and
nothing else behind them (`ofText?_point`).  It overflows just if the digits before the point are
those of a number that is beyond all doubles (`overflows_ofDigits`).
-/

namespace Subgraph.Decimal

/-- Some digits, and at least one. -/
structure IsDigits (text : List Char) : Prop where
  some : text ≠ []
  digits : ∀ c ∈ text, c.isDigit = true

theorem isDigits_iff {text : List Char} :
    IsDigits text ↔ text ≠ [] ∧ text.all Char.isDigit = true := by
  rw [List.all_eq_true]
  exact ⟨fun h => ⟨h.some, h.digits⟩, fun h => ⟨h.1, h.2⟩⟩

instance (text : List Char) : Decidable (IsDigits text) := decidable_of_iff _ isDigits_iff.symm

theorem isDigits_toDigits (n : Nat) : IsDigits (Nat.toDigits 10 n) :=
  ⟨Nat.toDigits_ne_nil, fun _ hc => Nat.isDigit_of_mem_toDigits (by decide) (by decide) hc⟩

theorem digitsValue_toDigits (n : Nat) : digitsValue (Nat.toDigits 10 n) = n :=
  Nat.ofDigitChars_toDigits (by decide) (by decide)

theorem digitsValue_concat (text : List Char) (c : Char) :
    digitsValue (text ++ [c]) = 10 * digitsValue text + (c.toNat - '0'.toNat) := by
  rw [digitsValue, List.foldl_append]
  rfl

/-- The value of a digit. -/
theorem toNat_of_isDigit {c : Char} (h : c.isDigit = true) :
    '0'.toNat ≤ c.toNat ∧ c.toNat ≤ '0'.toNat + 9 := by
  simp only [Char.isDigit, Bool.and_eq_true, decide_eq_true_eq, ge_iff_le,
    UInt32.le_iff_toNat_le] at h
  exact h

theorem digitChar_of_isDigit {c : Char} (h : c.isDigit = true) :
    (c.toNat - '0'.toNat).digitChar = c := by
  obtain ⟨least, most⟩ := toNat_of_isDigit h
  have char : c = Char.ofNat ('0'.toNat + (c.toNat - '0'.toNat)) := by
    rw [Nat.add_sub_cancel' least, Char.ofNat_toNat]
  have small : c.toNat - '0'.toNat < 10 := by omega
  have all : ∀ n < 10, n.digitChar = Char.ofNat ('0'.toNat + n) := by decide
  rw [all _ small, ← char]

/-- Of two rows behind each other, the first stands for so many tens more. -/
theorem digitsValue_append (s t : List Char) :
    digitsValue (s ++ t) = digitsValue s * tenTo t.length + digitsValue t := by
  induction t using List.reverseRecOn with
  | nil =>
      rw [List.append_nil, List.length_nil, tenTo_zero, Nat.mul_one]
      rfl
  | append_singleton t c ih =>
      rw [← List.append_assoc, digitsValue_concat, ih, digitsValue_concat, List.length_append,
        List.length_singleton, tenTo_succ, ← Nat.mul_assoc]
      omega

section

variable {t : List Char}

theorem digitsValue_lt (digits : ∀ c ∈ t, c.isDigit = true) : digitsValue t < tenTo t.length := by
  induction t using List.reverseRecOn with
  | nil => exact Nat.one_pos
  | append_singleton t c ih =>
      have before := ih fun c hc => digits c (List.mem_append_left _ hc)
      have bounds := toNat_of_isDigit (digits c (List.mem_append_right _ (List.mem_singleton_self c)))
      rw [digitsValue_concat, List.length_append, List.length_singleton, tenTo_succ]
      omega

/-- A row that does not begin with a zero is the number of something. -/
theorem digitsValue_pos (digits : IsDigits t) (first : t.head? ≠ some '0') : 0 < digitsValue t := by
  obtain ⟨c, rest, rfl⟩ := List.exists_cons_of_ne_nil digits.some
  obtain ⟨least, -⟩ := toNat_of_isDigit (digits.digits c List.mem_cons_self)
  have other : c.toNat ≠ '0'.toNat := fun h => first (congrArg some (Char.toNat_inj.mp h))
  have value : digitsValue [c] = 10 * 0 + (c.toNat - '0'.toNat) := rfl
  have some : 0 < digitsValue [c] := by omega
  rw [← List.singleton_append, digitsValue_append]
  exact Nat.add_pos_left (Nat.mul_pos some (tenTo_pos rest.length)) _

/-- **A number is written with its digits**, if these do not begin with a zero. -/
theorem toDigits_digitsValue (digits : IsDigits t) (first : t.head? ≠ some '0') :
    Nat.toDigits 10 (digitsValue t) = t := by
  induction t using List.reverseRecOn with
  | nil => exact absurd rfl digits.some
  | append_singleton t c ih =>
      have digit := digits.digits c (List.mem_append_right _ (List.mem_singleton_self c))
      have small : c.toNat - '0'.toNat < 10 := by
        have bounds := toNat_of_isDigit digit
        omega
      have last : Nat.toDigits 10 (c.toNat - '0'.toNat) = [c] := by
        rw [Nat.toDigits_of_lt_base small, digitChar_of_isDigit digit]
      rw [digitsValue_concat]
      by_cases alone : t = []
      · subst alone
        rw [List.nil_append, ← last]
        exact congrArg (Nat.toDigits 10) (Nat.zero_add _)
      · have before : IsDigits t := ⟨alone, fun d hd => digits.digits d (List.mem_append_left _ hd)⟩
        rw [List.head?_append_of_ne_nil _ alone] at first
        rw [← Nat.toDigits_append_toDigits (by decide) (digitsValue_pos before first) small,
          ih before first, last]

end

/-- Only the row of zero itself begins with a zero. -/
theorem head_toDigits {n : Nat} (pos : 0 < n) : (Nat.toDigits 10 n).head? ≠ some '0' := by
  induction n using Nat.strongRecOn with
  | ind n ih =>
      rw [Nat.toDigits_eq_if (by decide)]
      split
      · next small =>
          have all : ∀ n < 10, 0 < n → n.digitChar ≠ '0' := by decide
          intro h
          exact all n small pos (Option.some.inj h)
      · next large =>
          have before := ih (n / 10) (by omega) (by omega)
          obtain ⟨c, rest, digits⟩ : ∃ c rest, Nat.toDigits 10 (n / 10) = c :: rest :=
            List.exists_cons_of_ne_nil Nat.toDigits_ne_nil
          rw [digits] at before ⊢
          exact before

/-! ### Decimals in digits -/

variable {whole fraction : List Char}

theorem ofText?_whole (h : IsDigits whole) : ofText? whole = some (ofDigits whole [] 0) := by
  have taken : whole.takeWhile Char.isDigit = whole := List.takeWhile_eq_self_iff.mpr h.digits
  have left : whole.dropWhile Char.isDigit = [] := List.dropWhile_eq_nil_iff.mpr h.digits
  simp [ofText?, taken, left, h.some]

/-- What follows the digits behind a point must be an exponent. -/
theorem ofText?_point (h : IsDigits whole) (hf : IsDigits fraction) {rest : List Char}
    (other : rest.head?.any Char.isDigit = false) :
    ofText? (whole ++ '.' :: (fraction ++ rest)) = match rest with
      | [] => some (ofDigits whole fraction 0)
      | c :: rest => do
        guard (c = 'e' ∨ c = 'E')
        return ofDigits whole fraction (← exponent? rest) := by
  have before : (whole ++ '.' :: (fraction ++ rest)).takeWhile Char.isDigit = whole ∧
      (whole ++ '.' :: (fraction ++ rest)).dropWhile Char.isDigit = '.' :: (fraction ++ rest) := by
    rw [List.takeWhile_append_of_pos h.digits, List.dropWhile_append_of_pos h.digits]
    exact ⟨List.append_nil whole, rfl⟩
  have behind : (fraction ++ rest).takeWhile Char.isDigit = fraction ∧
      (fraction ++ rest).dropWhile Char.isDigit = rest := by
    rw [List.takeWhile_append_of_pos hf.digits, List.dropWhile_append_of_pos hf.digits]
    cases rest with
    | nil => exact ⟨List.append_nil fraction, rfl⟩
    | cons c rest =>
        rw [List.head?_cons, Option.any_some] at other
        simp [other]
  simp only [ofText?, before, behind, List.head?_cons, List.tail_cons, if_true]
  cases rest <;> simp [h.some, guard]

/-! ### Decimals that overflow -/

theorem atLeast_iff (d : Decimal) (n : Nat) : d.atLeast n = true ↔
    n * tenTo (-d.exponent).toNat ≤ d.mantissa * tenTo d.exponent.toNat := by
  rw [atLeast]
  split
  · next whole =>
      have none : (-d.exponent).toNat = 0 := by omega
      rw [none, tenTo_zero, Nat.mul_one, decide_eq_true_iff]
  · next below =>
      have none : d.exponent.toNat = 0 := by omega
      rw [none, tenTo_zero, Nat.mul_one, decide_eq_true_iff]

/-- The number of digits bounds the mantissa. -/
theorem mantissa_lt (d : Decimal) : d.mantissa < tenTo d.size :=
  (Nat.length_toDigits_le_iff (by decide) (List.length_pos_of_ne_nil Nat.toDigits_ne_nil)).mp le_rfl

theorem le_mantissa {d : Decimal} (some : d.mantissa ≠ 0) : tenTo (d.size - 1) ≤ d.mantissa := by
  rcases Nat.eq_zero_or_pos (d.size - 1) with one | more
  · rw [one, tenTo_zero]
    exact Nat.one_le_iff_ne_zero.mpr some
  · by_contra small
    have fewer : d.size ≤ d.size - 1 :=
      (Nat.length_toDigits_le_iff (by decide) more).mpr (not_le.mp small)
    omega

/-- The bound has 309 digits. -/
theorem doubleBound_size : tenTo 308 ≤ doubleBound ∧ doubleBound ≤ tenTo 309 := by
  decide +kernel

theorem not_atLeast_of_top_lt {d : Decimal} (small : d.top < 309) :
    d.atLeast doubleBound = false := by
  rw [Bool.eq_false_iff, Ne, atLeast_iff, not_le]
  have order : d.size + d.exponent.toNat ≤ 308 + (-d.exponent).toNat := by
    rw [top] at small
    omega
  calc d.mantissa * tenTo d.exponent.toNat
      < tenTo d.size * tenTo d.exponent.toNat :=
        Nat.mul_lt_mul_of_pos_right d.mantissa_lt (tenTo_pos _)
    _ ≤ tenTo 308 * tenTo (-d.exponent).toNat := by
        rw [← tenTo_add, ← tenTo_add]
        exact tenTo_mono order
    _ ≤ doubleBound * tenTo (-d.exponent).toNat := Nat.mul_le_mul_right _ doubleBound_size.1

theorem atLeast_of_lt_top {d : Decimal} (some : d.mantissa ≠ 0) (large : 309 < d.top) :
    d.atLeast doubleBound = true := by
  rw [atLeast_iff]
  have order : 309 + (-d.exponent).toNat ≤ d.size - 1 + d.exponent.toNat := by
    rw [top] at large
    omega
  calc doubleBound * tenTo (-d.exponent).toNat
      ≤ tenTo 309 * tenTo (-d.exponent).toNat := Nat.mul_le_mul_right _ doubleBound_size.2
    _ ≤ tenTo (d.size - 1) * tenTo d.exponent.toNat := by
        rw [← tenTo_add, ← tenTo_add]
        exact tenTo_mono order
    _ ≤ d.mantissa * tenTo d.exponent.toNat := Nat.mul_le_mul_right _ (le_mantissa some)

/-- The comparison by size is exact: it only saves that of the numbers. -/
theorem overflows_eq_atLeast (d : Decimal) : d.overflows = d.atLeast doubleBound := by
  rw [overflows]
  split
  · next zero =>
      have bound : 0 < doubleBound := (tenTo_pos 308).trans_le doubleBound_size.1
      symm
      rw [Bool.eq_false_iff, Ne, atLeast_iff, zero, Nat.zero_mul, not_le]
      exact Nat.mul_pos bound (tenTo_pos _)
  next some =>
  split
  · next small => exact (not_atLeast_of_top_lt small).symm
  split
  · next large => exact (atLeast_of_lt_top some large).symm
  · rfl

/-- A decimal in digits overflows if the digits before the point do. -/
theorem overflows_ofDigits (hf : ∀ c ∈ fraction, c.isDigit = true) :
    (ofDigits whole fraction 0).overflows = true ↔ doubleBound ≤ digitsValue whole := by
  have places := digitsValue_lt hf
  have exponent : (ofDigits whole fraction 0).exponent = -fraction.length := Int.zero_sub _
  have value : (ofDigits whole fraction 0).mantissa =
      digitsValue whole * tenTo fraction.length + digitsValue fraction :=
    digitsValue_append whole fraction
  have none : (-(fraction.length : Int)).toNat = 0 := by omega
  rw [overflows_eq_atLeast, atLeast_iff, exponent, value, none, tenTo_zero, Nat.mul_one, Int.neg_neg,
    Int.toNat_natCast]
  refine ⟨fun large => Nat.lt_succ_iff.mp (Nat.lt_of_mul_lt_mul_right (a := tenTo fraction.length) ?_),
    fun large => (Nat.mul_le_mul_right _ large).trans (Nat.le_add_right _ _)⟩
  rw [Nat.succ_mul]
  omega

end Subgraph.Decimal

namespace Subgraph.Double

open Decimal

/-- There is a point or a letter among the digits. -/
theorem not_isDigits_digitsText (digits : List Char) (last : Int) :
    ¬ IsDigits (digitsText digits last) := by
  have other {text : List Char} {c : Char} (mem : c ∈ text) (hc : c.isDigit = false) :
      ¬ IsDigits text := fun h => Bool.eq_false_iff.mp hc (h.digits c mem)
  simp only [digitsText]
  split
  · exact other (c := '.') (by simp) rfl
  split
  · exact other (c := '.') (by simp) rfl
  split
  · exact other (c := '.') (by simp) rfl
  split
  · exact other (c := 'e') (by simp) rfl
  · exact other (c := '.') (by simp) rfl
  · exact fun h => h.some rfl

/-- The text of a double is no row of digits. -/
theorem not_isDigits_text (d : Double) : ¬ IsDigits d.text.toList := by
  have zero : ¬ IsDigits ['0', '.', '0'] := fun h =>
    Bool.eq_false_iff.mp (by decide) (h.digits '.' (by decide))
  rw [text, String.toList_ofList]
  split
  · exact fun h => Bool.eq_false_iff.mp (by decide) (h.digits '-' List.mem_cons_self)
  · dsimp only
    split
    · exact zero
    · exact not_isDigits_digitsText _ _

end Subgraph.Double

namespace Subgraph.Yaml.Scalar

open Decimal

variable {c : Char} {rest : List Char}

theorem hexDigit?_of_isDigit (h : c.isDigit = true) :
    Text.hexDigit? c = some (c.toNat - '0'.toNat) := by
  have digit : '0' ≤ c ∧ c ≤ '9' := by
    simp only [Char.isDigit, Bool.and_eq_true, decide_eq_true_eq, ge_iff_le] at h
    exact h
  rw [Text.hexDigit?, if_pos digit]

theorem digits?_ten {text : List Char} (h : IsDigits text) :
    digits? 10 text = some (digitsValue text) := by
  have fold : ∀ (text : List Char) (n : Nat), (∀ c ∈ text, c.isDigit = true) →
      text.foldlM (fun n c => (Text.hexDigit? c).bind fun digit =>
        if digit < 10 then some (n * 10 + digit) else none) n =
      some (text.foldl (fun n c => 10 * n + (c.toNat - '0'.toNat)) n) := by
    intro text
    induction text with
    | nil => intros; rfl
    | cons c text ih =>
        intro n digits
        obtain ⟨digit, digits⟩ := List.forall_mem_cons.mp digits
        have small : c.toNat - '0'.toNat < 10 := by
          have bounds := toNat_of_isDigit digit
          omega
        rw [List.foldlM_cons, hexDigit?_of_isDigit digit, Option.bind_some, if_pos small]
        rw [List.foldl_cons, Nat.mul_comm 10 n]
        exact ih _ digits
  rw [digits?, if_neg h.some]
  exact fold text 0 h.digits

/-- A digit is no sign, and no letter that names a base. -/
theorem ne_of_isDigit {d : Char} (h : c.isDigit = true) (hd : d.isDigit = false) : c ≠ d := by
  rintro rfl
  rw [h] at hd
  cases hd

/-- There is no sign before a digit. -/
theorem unsigned_of_isDigit (digit : c.isDigit = true) : unsigned (c :: rest) = c :: rest := by
  rw [unsigned]
  · exact fun _ e => ne_of_isDigit digit (d := '+') (by decide) (List.cons.inj e).1
  · exact fun _ e => ne_of_isDigit digit (d := '-') (by decide) (List.cons.inj e).1

theorem head?_ne_plus (digit : c.isDigit = true) : (c :: rest).head? ≠ some '+' := fun e =>
  ne_of_isDigit digit (d := '+') (by decide) (Option.some.inj e)

/-- A row of digits is padded if it begins with a zero and goes on. -/
theorem isPadded_of_isDigits (h : IsDigits (c :: rest)) :
    isPadded (c :: rest) = true ↔ c = '0' ∧ rest ≠ [] := by
  have digit := h.digits c List.mem_cons_self
  have all : rest.all Char.isDigit = true := List.all_eq_true.mpr fun d hd =>
    h.digits d (List.mem_cons_of_mem c hd)
  rw [isPadded, unsigned_of_isDigit digit]
  cases rest with
  | nil => simp
  | cons d rest =>
      by_cases zero : c = '0'
      · subst zero
        simpa using all
      · simp [zero]

/-- **A row of digits is a number** unless it is padded. -/
theorem natural?_of_isDigits (h : IsDigits (c :: rest)) :
    natural? (c :: rest) =
      if isPadded (c :: rest) = true then none else some (digitsValue (c :: rest)) := by
  have digit := h.digits c List.mem_cons_self
  have magnitude : magnitude? (c :: rest) = some (digitsValue (c :: rest)) := by
    rw [magnitude?]
    · exact digits?_ten h
    all_goals
      intro others e
      have letter := h.digits
      rw [e] at letter
      exact absurd (letter _ (List.mem_cons_of_mem _ List.mem_cons_self)) (by decide)
  rw [natural?, if_neg (head?_ne_plus digit), magnitude]

/-- The digits that a number is written with are that number. -/
theorem natural?_toDigits (n : Nat) : natural? (Nat.toDigits 10 n) = some n := by
  obtain ⟨c, rest, eq⟩ : ∃ c rest, Nat.toDigits 10 n = c :: rest :=
    List.exists_cons_of_ne_nil Nat.toDigits_ne_nil
  have digits := isDigits_toDigits n
  have value := digitsValue_toDigits n
  rw [eq] at digits value ⊢
  have plain : ¬ isPadded (c :: rest) = true := by
    rw [isPadded_of_isDigits digits]
    rintro ⟨rfl, more⟩
    rcases Nat.eq_zero_or_pos n with rfl | pos
    · exact more (List.cons.inj eq).2.symm
    · exact head_toDigits pos (by rw [eq]; rfl)
  rw [natural?_of_isDigits digits, if_neg plain, value]

/-! ### Texts that begin with a digit -/

variable {text : String}

/-- They are none of some words that do not. -/
theorem contains_of_isDigit (h : text.toList = c :: rest) (digit : c.isDigit = true)
    {words : List String}
    (others : words.all (fun word => !word.toList.head?.any Char.isDigit) = true) :
    words.contains text = false := by
  rw [List.contains_eq_mem, decide_eq_false_iff_not]
  intro listed
  have other := List.all_eq_true.mp others text listed
  rw [h, List.head?_cons, Option.any_some, digit] at other
  cases other

theorem isPresent_of_isDigit (h : text.toList = c :: rest) (digit : c.isDigit = true) :
    ¬ (text = "" ∨ isNullWord text = true) := by
  rintro (rfl | null)
  · cases h
  · rw [isNullWord, contains_of_isDigit h digit (by decide)] at null
    cases null

/-- They are neither missing nor a truth value. -/
theorem plain?_of_isDigit (h : text.toList = c :: rest) (digit : c.isDigit = true) :
    plain? text = (integer? (c :: rest)).elim (some (notInteger text)) fun n =>
      match integerSize n with
      | .held => some (.number (.integer n))
      | .refused => none
      | .beyond => some (notInteger text) := by
  have truth : bool? text = none := by
    rw [bool?, contains_of_isDigit h digit (by decide), contains_of_isDigit h digit (by decide)]
    rfl
  rw [plain?, if_neg (isPresent_of_isDigit h digit), truth, h]
  -- The size must not be computed while the integer is unknown.
  generalize integer? (c :: rest) = number, integerSize = size
  cases number <;> rfl

/-- They are no negative integers. -/
theorem integer?_of_isDigit (digit : c.isDigit = true) :
    integer? (c :: rest) = Option.map (fun n : Nat => (n : Int)) (natural? (c :: rest)) := by
  rw [integer?]
  · cases natural? (c :: rest) <;> rfl
  · exact fun _ e => ne_of_isDigit digit (d := '-') (by decide) (List.cons.inj e).1

theorem integerSize_natCast (n : Nat) : integerSize n =
    if n < twoTo 64 then .held else if n < twoTo 128 then .refused else .beyond := by
  have above (k : Nat) : -(twoTo k : Int) ≤ n := by omega
  simp only [integerSize, above, true_and, Int.ofNat_lt]

/-- They are no words for what is not finite. -/
theorem float?_of_isDigit (digit : c.isDigit = true) :
    float? (c :: rest) = double? false (c :: rest) := by
  have finite : isNanWord (c :: rest) = false ∧ isInfinityWord (c :: rest) = false :=
    ⟨contains_of_isDigit String.toList_ofList digit (by decide),
      contains_of_isDigit String.toList_ofList digit (by decide)⟩
  rw [float?, finite.1]
  · simp only [Bool.false_eq_true, if_false, if_neg (head?_ne_plus digit), finite.2]
  · exact fun _ e => ne_of_isDigit digit (d := '-') (by decide) (List.cons.inj e).1

theorem notInteger_of_isDigit (h : text.toList = c :: rest) (digit : c.isDigit = true)
    (plain : isPadded (c :: rest) = false) :
    notInteger text = match double? false (c :: rest) with
      | some number => .number number
      | none => .string text := by
  rw [notInteger, h, plain, float?_of_isDigit digit]
  rfl

theorem digits?_eq_none {base : Nat} {text : List Char} (mem : c ∈ text)
    (other : Text.hexDigit? c = none) : digits? base text = none := by
  obtain ⟨before, after, rfl⟩ := List.append_of_mem mem
  have step (n : Nat) : (c :: after).foldlM (fun n c => (Text.hexDigit? c).bind fun digit =>
      if digit < base then some (n * base + digit) else none) n = none := by
    rw [List.foldlM_cons, other]
    rfl
  rw [digits?]
  split
  · rfl
  · rw [List.foldlM_append, funext step]
    exact Option.bind_fun_none _

/-- An integer that is not padded is written with the digits it was read from. -/
theorem text_integer (digits : IsDigits (c :: rest)) (plain : ¬ isPadded (c :: rest) = true) :
    (Number.integer (digitsValue (c :: rest))).text = String.ofList (c :: rest) := by
  have written : Nat.toDigits 10 (digitsValue (c :: rest)) = c :: rest := by
    by_cases zero : c = '0'
    · have alone : rest = [] := by
        by_contra more
        exact plain ((isPadded_of_isDigits digits).mpr ⟨zero, more⟩)
      rw [zero, alone]
      rfl
    · exact toDigits_digitsValue digits fun h => zero (Option.some.inj h)
  exact congrArg String.ofList written

/-- A text with a point is no integer, and it is not padded. -/
theorem natural?_of_point (digit : c.isDigit = true) (point : '.' ∈ rest) :
    isPadded (c :: rest) = false ∧ natural? (c :: rest) = none := by
  have unpadded : isPadded (c :: rest) = false := by
    rw [isPadded, unsigned_of_isDigit digit]
    split
    · next e =>
        obtain ⟨-, rfl⟩ := List.cons.inj e
        exact List.all_eq_false.mpr ⟨'.', point, by decide⟩
    · rfl
  have others (base : Nat) {d : Char} {rest : List Char} (point : '.' ∈ d :: rest) (hd : d ≠ '.') :
      digits? base rest = none :=
    digits?_eq_none (List.mem_of_ne_of_mem hd.symm point) (by decide)
  refine ⟨unpadded, ?_⟩
  rw [natural?, unpadded, if_neg (by decide), if_neg (head?_ne_plus digit)]
  rw [magnitude?.eq_def]
  split
  · next e => exact others 16 ((List.cons.inj e).2 ▸ point) (by decide)
  · next e => exact others 8 ((List.cons.inj e).2 ▸ point) (by decide)
  · next e => exact others 2 ((List.cons.inj e).2 ▸ point) (by decide)
  · exact digits?_eq_none (List.mem_cons_of_mem c point) (by decide)

end Subgraph.Yaml.Scalar

import Subgraph.Manifest.Reader
import Subgraph.Proofs.ShortDecimals

/-!
# Versions — what is read of one without quotes

A `Version` is one or more groups of digits with points between them.  In quotes it is read as it is
written (`readVersion_quoted`).  Without quotes it is taken for a number if it looks like one, and
then the text of the number is read, or nothing at all: `Version.read?` says what, by the number of
groups (`readVersion_plain`).

* One group is an integer.  It is kept unless it needs more than 64 bits and is not padded.
* Two groups are a float.  Up to fifteen digits are kept just if no zero is needless and they need
  no exponent; more digits only if the nearest double happens to be written with them all.
* More groups are no number, and are kept.
-/

namespace Subgraph

open Decimal Yaml

/-- A version. -/
structure Version where
  groups : List (List Char)
  nonempty : groups ≠ []
  digits : ∀ group ∈ groups, IsDigits group

namespace Version

/-- The characters of a version. -/
def chars (v : Version) : List Char := List.intercalate ['.'] v.groups

/-- The text of a version. -/
def text (v : Version) : String := String.ofList v.chars

/-- The text of a float: that of the nearest double, or the text itself where there is none. -/
def floatText (v : Version) (d : Decimal) : String :=
  if d.overflows then v.text else (d.nearest false).text

/-- What is read of a version without quotes. -/
def read? (v : Version) : Option String :=
  match v.groups with
  | [digits] =>
    if Scalar.isPadded digits ∨ digitsValue digits < twoTo 64 then some v.text
    else if digitsValue digits < twoTo 128 then none
    else some (v.floatText (ofDigits digits [] 0))
  | [whole, fraction] => some (v.floatText (ofDigits whole fraction 0))
  | _ => some v.text

/-- Nothing is lost of a version without quotes. -/
def IsKept (v : Version) : Prop :=
  match v.groups with
  | [digits] =>
    Scalar.isPadded digits = true ∨ digitsValue digits < twoTo 64 ∨
      doubleBound ≤ digitsValue digits
  | [whole, fraction] =>
    doubleBound ≤ digitsValue whole ∨
      if whole.length + fraction.length ≤ 15 then Double.IsCanonical whole fraction
      else ((ofDigits whole fraction 0).nearest false).text = v.text
  | _ => True

end Version

/-! ### What is read -/

theorem Yaml.Reader.generic_scalar {room : Nat} (tag? : Option TagText) (style : ScalarStyle)
    (text : String) : generic room (.scalar tag? style text) =
      (Scalar.value? tag? style text).elim failure pure := by
  have followed : Reading.follow (.scalar tag? style text) = pure (.scalar tag? style text) := rfl
  rw [generic, followed, pure_bind]
  cases value : Scalar.value? tag? style text <;> simp [value]

namespace Manifest

open Yaml.Reader

variable {room : Nat}

/-- In quotes a version is read as it is written. -/
theorem readVersion_quoted (text : String) :
    readVersion room (.scalar none .quoted text) = pure (some text) := by
  have asked : generic.optional room (.scalar none .quoted text) =
      some <$> generic room (.scalar none .quoted text) := rfl
  rw [readVersion, asked, generic_scalar]
  rfl

/-- Without quotes its value decides. -/
theorem readVersion_unquoted {text : String}
    (present : ¬ (text = "" ∨ Scalar.isNullWord text = true)) :
    readVersion room (.scalar none .plain text) = match Scalar.plain? text with
      | some .null => pure none
      | some (.string text) => pure (some text)
      | some (.number number) => pure (some number.text)
      | _ => failure := by
  have asked : generic.optional room (.scalar none .plain text) =
      if (text = "" || Scalar.isNullWord text) = true then pure none
      else some <$> generic room (.scalar none .plain text) := rfl
  have given : ¬ (text = "" || Scalar.isNullWord text) = true := by
    simpa only [Bool.or_eq_true, decide_eq_true_eq] using present
  have value : Scalar.value? none .plain text = Scalar.plain? text := rfl
  rw [readVersion, asked, if_neg given, generic_scalar, value]
  cases Scalar.plain? text with
  | none => rfl
  | some value => cases value <;> rfl

end Manifest

namespace Version

variable {room : Nat}

/-- The characters begin with those of the first group. -/
theorem exists_chars (v : Version) : ∃ c rest, v.chars = c :: rest ∧ c.isDigit = true := by
  obtain ⟨groups, nonempty, digits⟩ := v
  obtain ⟨group, others, rfl⟩ := List.exists_cons_of_ne_nil nonempty
  have first := digits group List.mem_cons_self
  obtain ⟨c, rest, rfl⟩ := List.exists_cons_of_ne_nil first.some
  have digit := first.digits c List.mem_cons_self
  cases others with
  | nil => exact ⟨c, rest, List.intercalate_singleton, digit⟩
  | cons other others =>
      exact ⟨c, rest ++ ['.'] ++ List.intercalate ['.'] (other :: others),
        List.intercalate_cons_cons, digit⟩

theorem toList_text (v : Version) : v.text.toList = v.chars := String.toList_ofList

/-- What is read where no integer is. -/
theorem readVersion_notInteger (v : Version) {d? : Option Decimal}
    (plain : Scalar.isPadded v.chars = false)
    (natural : ∀ n ∈ Scalar.natural? v.chars, twoTo 128 ≤ n) (decimal : ofText? v.chars = d?) :
    Manifest.readVersion room (.scalar none .plain v.text) =
      pure (some (d?.elim v.text v.floatText)) := by
  obtain ⟨c, rest, chars, digit⟩ := v.exists_chars
  have toList := v.toList_text
  rw [chars] at plain natural decimal toList
  have value : Scalar.plain? v.text = some (Scalar.notInteger v.text) := by
    rw [Scalar.plain?_of_isDigit toList digit, Scalar.integer?_of_isDigit digit]
    cases number : Scalar.natural? (c :: rest) with
    | none => rfl
    | some n =>
        have large := natural n number
        have order : twoTo 64 ≤ twoTo 128 := by decide
        have size : Scalar.integerSize n = .beyond := by
          rw [Scalar.integerSize_natCast, if_neg (by omega), if_neg (by omega)]
        rw [Option.map_some, Option.elim_some, size]
  rw [Manifest.readVersion_unquoted (Scalar.isPresent_of_isDigit toList digit), value,
    Scalar.notInteger_of_isDigit toList digit plain, Scalar.double?, decimal]
  cases d? with
  | none => rfl
  | some d => cases beyond : d.overflows <;> simp [floatText, beyond, Number.text]

/-- What is read of one group. -/
theorem readVersion_integer (v : Version) {whole : List Char} (h : v.groups = [whole]) :
    Manifest.readVersion room (.scalar none .plain v.text) =
      v.read?.elim failure fun text => pure (some text) := by
  have group : v.chars = whole := by rw [chars, h, List.intercalate_singleton]
  have digits := v.digits whole (by rw [h]; exact List.mem_singleton_self whole)
  obtain ⟨c, rest, chars, digit⟩ := v.exists_chars
  have toList := v.toList_text
  rw [chars] at toList
  rw [← group, chars] at digits h
  have number := Scalar.natural?_of_isDigits digits
  by_cases padded : Scalar.isPadded (c :: rest) = true
  · rw [Manifest.readVersion_unquoted (Scalar.isPresent_of_isDigit toList digit),
      Scalar.plain?_of_isDigit toList digit, Scalar.integer?_of_isDigit digit, number, read?, h]
    simp [padded, Scalar.notInteger, toList]
  rw [if_neg padded] at number
  by_cases beyond : twoTo 128 ≤ digitsValue (c :: rest)
  · have large : ¬ digitsValue (c :: rest) < twoTo 128 := Nat.not_lt.mpr beyond
    have held : ¬ digitsValue (c :: rest) < twoTo 64 := fun small =>
      large (small.trans (by decide))
    have natural : ∀ n ∈ Scalar.natural? v.chars, twoTo 128 ≤ n := by
      rw [chars, number]
      rintro n ⟨⟩
      exact beyond
    rw [readVersion_notInteger v (by rw [chars, eq_false_of_ne_true padded]) natural
      (by rw [chars, ofText?_whole digits]), read?, h]
    simp [padded, held, large]
  rw [Manifest.readVersion_unquoted (Scalar.isPresent_of_isDigit toList digit),
    Scalar.plain?_of_isDigit toList digit, Scalar.integer?_of_isDigit digit, number,
    Option.map_some, Option.elim_some, Scalar.integerSize_natCast, read?, h]
  by_cases held : digitsValue (c :: rest) < twoTo 64
  · have text : (Number.integer (digitsValue (c :: rest))).text = v.text := by
      rw [Scalar.text_integer digits padded, ← chars]
      rfl
    simp [held, text]
  · simp [padded, held, Nat.not_le.mp beyond]

/-- What is read of two groups or more. -/
theorem readVersion_point (v : Version) {whole fraction : List Char} {others : List (List Char)}
    (h : v.groups = whole :: fraction :: others) :
    Manifest.readVersion room (.scalar none .plain v.text) =
      v.read?.elim failure fun text => pure (some text) := by
  have digits : IsDigits whole ∧ IsDigits fraction :=
    ⟨v.digits _ (by simp [h]), v.digits _ (by simp [h])⟩
  obtain ⟨c, rest, rfl⟩ := List.exists_cons_of_ne_nil digits.1.some
  have digit := digits.1.digits c List.mem_cons_self
  obtain ⟨behind, chars, decimal⟩ : ∃ behind, v.chars = c :: (rest ++ '.' :: behind) ∧
      ofText? v.chars = if others = [] then some (ofDigits (c :: rest) fraction 0) else none := by
    cases others with
    | nil =>
        have chars : v.chars = (c :: rest) ++ '.' :: (fraction ++ []) := by
          rw [Version.chars, h, List.intercalate_cons_cons, List.intercalate_singleton]
          simp
        refine ⟨_, chars, ?_⟩
        rw [chars, ofText?_point digits.1 digits.2 rfl, if_pos rfl]
    | cons other others =>
        have chars : v.chars = (c :: rest) ++ '.' :: (fraction ++
            '.' :: List.intercalate ['.'] (other :: others)) := by
          rw [Version.chars, h, List.intercalate_cons_cons, List.intercalate_cons_cons]
          simp
        refine ⟨_, chars, ?_⟩
        rw [chars, ofText?_point digits.1 digits.2 rfl, if_neg (List.cons_ne_nil other others)]
        rfl
  obtain ⟨plain, natural⟩ := Scalar.natural?_of_point digit
    (List.mem_append_right rest (List.mem_cons_self (l := behind)))
  rw [← chars] at plain natural
  rw [readVersion_notInteger v plain (by rw [natural]; nofun) decimal, read?, h]
  cases others <;> rfl

/-- **What is read of a version without quotes.** -/
theorem readVersion_plain (v : Version) :
    Manifest.readVersion room (.scalar none .plain v.text) =
      v.read?.elim failure fun text => pure (some text) := by
  cases h : v.groups with
  | nil => exact absurd h v.nonempty
  | cons whole others =>
      cases others with
      | nil => exact readVersion_integer v h
      | cons fraction others => exact readVersion_point v h

/-- When one group is kept. -/
theorem isKept_integer (v : Version) {whole : List Char} (h : v.groups = [whole]) :
    v.IsKept ↔ v.read? = some v.text := by
  have text : v.text.toList = whole := by rw [toList_text, chars, h, List.intercalate_singleton]
  have digits := v.digits whole (by rw [h]; exact List.mem_singleton_self whole)
  have other (d : Double) : d.text ≠ v.text := by
    intro same
    have digits := d.not_isDigits_text
    rw [same, text] at digits
    contradiction
  have bound : twoTo 64 ≤ twoTo 128 ∧ twoTo 128 ≤ doubleBound := by decide +kernel
  have beyond : (ofDigits whole [] 0).overflows = true ↔ doubleBound ≤ digitsValue whole :=
    overflows_ofDigits nofun
  rw [IsKept, read?, h]
  by_cases padded : Scalar.isPadded whole = true
  · simp [padded]
  by_cases held : digitsValue whole < twoTo 64
  · simp [held]
  by_cases refused : digitsValue whole < twoTo 128
  · simp [padded, held, refused, show ¬ doubleBound ≤ digitsValue whole by omega]
  · simp [padded, held, refused, floatText, beyond, other]

/-- When two groups are kept. -/
theorem isKept_float (v : Version) {whole fraction : List Char} (h : v.groups = [whole, fraction]) :
    v.IsKept ↔ v.read? = some v.text := by
  have digits : IsDigits whole ∧ IsDigits fraction :=
    ⟨v.digits _ (by simp [h]), v.digits _ (by simp [h])⟩
  have text : v.text = String.ofList (whole ++ '.' :: fraction) := by
    rw [Version.text, chars, h, List.intercalate_cons_cons, List.intercalate_singleton,
      List.append_assoc]
    rfl
  have beyond : (ofDigits whole fraction 0).overflows = true ↔ doubleBound ≤ digitsValue whole :=
    overflows_ofDigits digits.2.digits
  rw [IsKept, read?, h]
  simp only [floatText, beyond, text, Option.some_inj]
  by_cases large : doubleBound ≤ digitsValue whole
  · simp only [large, true_or, if_true]
  rw [or_iff_right large, if_neg large]
  split
  · next few => exact (Double.text_nearest_iff digits.1 digits.2 few).symm
  · rfl

/-- **When nothing of it is lost.** -/
theorem isKept_iff (v : Version) : v.IsKept ↔ v.read? = some v.text := by
  cases h : v.groups with
  | nil => exact absurd h v.nonempty
  | cons whole others =>
      cases others with
      | nil => exact v.isKept_integer h
      | cons fraction others =>
          cases others with
          | nil => exact v.isKept_float h
          | cons other others => simp [IsKept, read?, h]

instance (v : Version) : Decidable v.IsKept := decidable_of_iff _ v.isKept_iff.symm

end Version

end Subgraph

import Mathlib.Data.List.Induction
import Mathlib.Data.List.TakeWhile
import Subgraph.Ethereum.AbiReader
import Subgraph.Proofs.Builds
import Subgraph.Proofs.Completeness
import Subgraph.Proofs.TypeNames

/-!
# ValueTypes — the types that the bindings support

The name of a type is read from its end: what stands between the last opening bracket and a closing
one at the end is an array group, and so on with what is left.  What is left at last is the name of
an elementary type, or the type is not supported.

* `withoutGroup?_eq_some_iff`, `groups_append`, `exists_groups`: the reading of array groups.
* `valueType_groups`: how the values of a type appear, by the number of its groups.
* `isOk_valueType_iff`: a type is supported just when its name is one in the loose spelling.  So
  sizes may have a plus sign and zeros in front, and anything but an opening bracket may stand
  between brackets.
* `not_isType_paddedAbi`: the bindings support types that no contract has.
-/

namespace Subgraph.Ethereum

/-! ### The reading of array groups -/

section

open Spelling

variable {type inner base : List Char} {lengths : List (List Char)}

theorem withoutGroup?_eq_some_iff :
    withoutGroup? type = some inner ↔
      ∃ length, loose.IsLength length ∧ type = inner ++ group length := by
  constructor
  · intro h
    unfold withoutGroup? at h
    split at h
    · next before closed =>
        split at h
        · next c element dropped =>
            cases h
            have opened : c = '[' := by
              have stop := List.head?_dropWhile_not (· != '[') before
              rw [dropped] at stop
              simpa using stop
            subst opened
            have whole := List.takeWhile_append_dropWhile (p := (· != '[')) (l := before)
            rw [dropped] at whole
            refine ⟨(before.takeWhile (· != '[')).reverse, fun hm => ?_, ?_⟩
            · have ne := List.mem_takeWhile_imp (List.mem_reverse.mp hm)
              simp at ne
            · rw [← List.reverse_inj, closed]
              simp [group, whole]
        · cases h
    · cases h
  · rintro ⟨length, free, rfl⟩
    have ne : ∀ c ∈ length.reverse, (c != '[') = true := fun c hc =>
      bne_iff_ne.mpr fun h => free (h ▸ List.mem_reverse.mp hc)
    have reversed : (inner ++ group length).reverse =
        ']' :: (length.reverse ++ '[' :: inner.reverse) := by
      simp [group]
    simp only [withoutGroup?, reversed, List.dropWhile_append_of_pos ne]
    simp

theorem withoutGroup?_of_notMem (free : '[' ∉ type) : withoutGroup? type = none := by
  refine Option.eq_none_iff_forall_ne_some.mpr fun inner h => ?_
  obtain ⟨length, -, rfl⟩ := withoutGroup?_eq_some_iff.mp h
  exact free (List.mem_append_right _ List.mem_cons_self)

theorem groups_of_none (h : withoutGroup? type = none) : groups type = (0, type) := by
  rw [groups]
  split
  · rfl
  · next h' => cases h.symm.trans h'

theorem groups_of_some (h : withoutGroup? type = some inner) :
    groups type = ((groups inner).1 + 1, (groups inner).2) := by
  rw [groups]
  split
  · next h' => cases h.symm.trans h'
  · next h' =>
      cases h.symm.trans h'
      rfl

/-- **Groups are taken off one by one, from the last one on.** -/
theorem groups_append (each : ∀ length ∈ lengths, loose.IsLength length) :
    groups (base ++ lengths.flatMap group) =
      ((groups base).1 + lengths.length, (groups base).2) := by
  induction lengths using List.reverseRec with
  | nil => simp
  | append_singleton lengths last ih =>
      obtain ⟨others, each⟩ := List.forall_mem_append.mp each
      have ends : withoutGroup? (base ++ (lengths ++ [last]).flatMap group) =
          some (base ++ lengths.flatMap group) := by
        refine withoutGroup?_eq_some_iff.mpr ⟨last, each last List.mem_cons_self, ?_⟩
        simp
      rw [groups_of_some ends, ih others, List.length_append]
      rfl

/-- What is taken off are groups. -/
theorem exists_groups (type : List Char) :
    ∃ lengths : List (List Char), (∀ length ∈ lengths, loose.IsLength length) ∧
      lengths.length = (groups type).1 ∧ type = (groups type).2 ++ lengths.flatMap group := by
  fun_induction groups type with
  | case1 type none => exact ⟨[], nofun, rfl, (List.append_nil type).symm⟩
  | case2 type inner ends _ n element split ih =>
      obtain ⟨lengths, each, count, whole⟩ := ih
      obtain ⟨last, free, rfl⟩ := withoutGroup?_eq_some_iff.mp ends
      rw [split] at count whole
      refine ⟨lengths ++ [last], ?_, ?_, ?_⟩
      · exact List.forall_mem_append.mpr ⟨each, List.forall_mem_singleton.mpr free⟩
      · rw [List.length_append, count]
        rfl
      · rw [whole]
        simp

/-- What is read behind a name without brackets is its groups. -/
theorem groups_of_split {type : String} (split : type.toList = base ++ lengths.flatMap group)
    (free : '[' ∉ base) (each : ∀ length ∈ lengths, loose.IsLength length) :
    groups type.toList = (lengths.length, base) := by
  rw [split, groups_append each, groups_of_none (withoutGroup?_of_notMem free), Nat.zero_add]

theorem bracket_notMem_size {size : List Char} {n : Nat} (written : loose.IsSize size n) :
    '[' ∉ size := by
  obtain ⟨digits, rfl | rfl, -, all, -⟩ := written
  · exact fun hm => absurd (all _ hm) (by decide)
  · intro hm
    rcases List.mem_cons.mp hm with hm | hm
    · exact absurd hm (by decide)
    · exact absurd (all _ hm) (by decide)

theorem bracket_notMem_integer {name : List Char} {i : IntegerType}
    (named : loose.NamesInteger name i) : '[' ∉ name := by
  obtain ⟨-, size, rfl, written⟩ := named
  have word : '[' ∉ i.word.toList := by
    unfold IntegerType.word
    split <;> decide
  rintro hm
  rcases List.mem_append.mp hm with hm | hm
  · exact word hm
  · rcases written with ⟨rfl, -⟩ | written
    · exact List.not_mem_nil hm
    · exact bracket_notMem_size written hm

/-- No name of an elementary type has a bracket in it. -/
theorem bracket_notMem {name : List Char} {element : Elementary}
    (named : loose.Names name element) : '[' ∉ name := by
  cases named with
  | address | boolean | text | bytes | tuple => decide
  | fixedBytes written =>
      intro hm
      rcases List.mem_append.mp hm with hm | hm
      · exact absurd hm (by decide)
      · exact bracket_notMem_size written hm
  | small named | large named => exact bracket_notMem_integer named

end

/-! ### Supported types -/

open Spelling

/-- How values appear that are in so many arrays. -/
def Elementary.within (element : Elementary) : Nat → ValueType
  | 0 => element.scalar
  | 1 => element.array
  | _ => undecodedArray

section

variable {type : String} {base : List Char} {lengths : List (List Char)}
  (split : type.toList = base ++ lengths.flatMap group)
  (each : ∀ length ∈ lengths, loose.IsLength length)
include split each

theorem valueType_of_names {element : Elementary} (named : loose.Names base element) :
    valueType type = .ok (element.within lengths.length) := by
  unfold valueType
  rw [groups_of_split split (bracket_notMem named) each]
  dsimp only
  rw [Elementary.ofName?_eq_some_iff.mpr named]
  rfl

theorem valueType_of_not_names (free : '[' ∉ base)
    (none : ∀ element, ¬ loose.Names base element) :
    valueType type = .error (.unsupportedType type) := by
  have unread : Elementary.ofName? base = .none :=
    Option.eq_none_iff_forall_ne_some.mpr fun element h =>
      none element (Elementary.ofName?_eq_some_iff.mp h)
  unfold valueType
  rw [groups_of_split split free each]
  dsimp only
  rw [unread]

end

/-- An integer type stands for machine integers if all of its values fit, and otherwise for integers
of any size. -/
theorem exists_integer {name : List Char} {i : IntegerType} (named : loose.NamesInteger name i) :
    ∃ element, loose.Names name element ∧
      (i.IsSmall → element.scalar.ascription = "i32" ∧ element.array.ascription = "Array<i32>") ∧
      (¬ i.IsSmall →
        element.scalar.ascription = "BigInt" ∧ element.array.ascription = "Array<BigInt>") := by
  by_cases small : i.IsSmall
  · exact ⟨.small, .small named small, fun _ => ⟨rfl, rfl⟩, fun large => absurd small large⟩
  · refine ⟨_, .large named small, fun fits => absurd fits small, fun _ => ?_⟩
    split <;> exact ⟨rfl, rfl⟩

/-- **How the values of a type appear** is up to its elementary type and the number of its groups,
whatever stands in them: by themselves, in an array of their own, or in one that is not decoded.  If
no elementary type has the name before the groups, the whole type is not supported.

An integer type has machine integers just when they hold all of its values. -/
theorem valueType_groups {type : String} {base : List Char} {lengths : List (List Char)}
    (split : type.toList = base ++ lengths.flatMap group) (free : '[' ∉ base)
    (each : ∀ length ∈ lengths, loose.IsLength length) :
    (∀ element, loose.Names base element →
      (lengths.length = 0 → valueType type = .ok element.scalar) ∧
      (lengths.length = 1 → valueType type = .ok element.array) ∧
      (2 ≤ lengths.length →
        valueType type = .ok ⟨"Array<ethereum.Value>", "toArray", "fromArray"⟩)) ∧
    ((∀ element, ¬ loose.Names base element) →
      valueType type = .error (.unsupportedType type)) ∧
    ∀ i, loose.NamesInteger base i → ∃ element, loose.Names base element ∧
      (i.IsSmall → element.scalar.ascription = "i32" ∧ element.array.ascription = "Array<i32>") ∧
      (¬ i.IsSmall →
        element.scalar.ascription = "BigInt" ∧ element.array.ascription = "Array<BigInt>") := by
  refine ⟨fun element named => ?_, valueType_of_not_names split each free,
    fun _ named => exists_integer named⟩
  rw [valueType_of_names split each named]
  refine ⟨fun zero => ?_, fun one => ?_, fun more => ?_⟩
  · rw [zero]
    rfl
  · rw [one]
    rfl
  · obtain ⟨n, count⟩ := Nat.exists_eq_add_of_le' more
    rw [count]
    rfl

instance : DecidablePred loose.IsLength := fun text => inferInstanceAs (Decidable ('[' ∉ text))

/-- Small integers in an array of arrays, large ones in an array, and integers of a size that there
is not. -/
theorem valueType_groups_integers :
    valueType "uint24[2][]" = .ok ⟨"Array<ethereum.Value>", "toArray", "fromArray"⟩ ∧
    (∃ t, valueType "uint32[3]" = .ok t ∧ t.ascription = "Array<BigInt>") ∧
    valueType "uint7[]" = .error (.unsupportedType "uint7[]") := by
  have nested := @valueType_groups "uint24[2][]" "uint24".toList [['2'], []] (by decide) (by decide)
    (by decide)
  have array := @valueType_groups "uint32[3]" "uint32".toList [['3']] (by decide) (by decide)
    (by decide)
  have other := @valueType_groups "uint7[]" "uint7".toList [[]] (by decide) (by decide) (by decide)
  refine ⟨?_, ?_, other.2.1 fun element named => ?_⟩
  · have named : loose.Names "uint24".toList .small :=
      Elementary.ofName?_eq_some_iff.mp (by decide +kernel)
    exact (nested.1 .small named).2.2 (Nat.le_refl 2)
  · have size : loose.IsSize "32".toList 32 :=
      ⟨_, .inl rfl, by decide, List.all_eq_true.mp rfl, by decide +kernel⟩
    obtain ⟨element, named, -, large⟩ :=
      array.2.2 ⟨false, 32⟩ ⟨⟨rfl, by decide, by decide⟩, "32".toList, rfl, .inr size⟩
    refine ⟨_, (array.1 element named).2.1 rfl, (large ?_).2⟩
    rw [IntegerType.isSmall_iff]
    decide
  · have read := Elementary.ofName?_eq_some_iff.mpr named
    rw [show Elementary.ofName? "uint7".toList = none from by decide +kernel] at read
    cases read

/-- **A type is supported** just when its name is that of an elementary type with array groups
behind it, in the loose spelling.  All that is written plainly is among these names. -/
theorem isOk_valueType_iff (type : String) :
    ((∃ t, valueType type = .ok t) ↔ loose.IsType type) ∧
      (plain.IsType type → ∃ t, valueType type = .ok t) := by
  have supported : (∃ t, valueType type = .ok t) ↔ loose.IsType type := by
    constructor
    · rintro ⟨t, h⟩
      obtain ⟨lengths, each, -, split⟩ := exists_groups type.toList
      unfold valueType at h
      split at h
      · next n name read =>
          rw [read] at split
          split at h
          · cases h
          · next element named =>
              exact ⟨name, element, lengths, split, Elementary.ofName?_eq_some_iff.mp named, each⟩
    · rintro ⟨base, element, lengths, split, named, each⟩
      exact ⟨_, valueType_of_names split each named⟩
  exact ⟨supported, fun written => supported.mpr (allows_plain.isType written)⟩

/-- Types that are no arrays, arrays of any length, and brackets with more than a number in them. -/
theorem isOk_valueType_iff_tuples : (∃ t, valueType "tuple[][12]" = .ok t) ∧
    (∃ t, valueType "uint+8[x]]" = .ok t) ∧ ¬ loose.IsType "uint[8" := by
  have groups : ∀ length ∈ [[], "12".toList], plain.IsLength length := by
    refine List.forall_mem_cons.mpr ⟨nofun, List.forall_mem_singleton.mpr ?_⟩
    exact List.all_eq_true.mp rfl
  have size : loose.IsSize "+8".toList 8 :=
    ⟨['8'], .inr rfl, by decide, List.all_eq_true.mp rfl, by decide +kernel⟩
  have small : loose.Names "uint+8".toList .small :=
    Elementary.ofName?_eq_some_iff.mp (by decide +kernel)
  refine ⟨(isOk_valueType_iff "tuple[][12]").2 ⟨_, _, _, rfl, .tuple, groups⟩, ?_, ?_⟩
  · exact (isOk_valueType_iff "uint+8[x]]").1.mpr
      ⟨_, _, ["x]".toList], rfl, small, by decide⟩
  · intro written
    obtain ⟨t, h⟩ := (isOk_valueType_iff "uint[8").1.mpr written
    have refused : (valueType "uint[8").toBool = false := by decide +kernel
    rw [h] at refused
    cases refused

/-- A plain size has no zeros in front. -/
theorem not_namesInteger_padded {i : IntegerType} :
    ¬ plain.NamesInteger "uint008".toList i := by
  rintro ⟨-, size, split, written⟩
  have eight : size = "008".toList := by
    unfold IntegerType.word at split
    cases hs : i.signed with
    | true =>
        rw [hs] at split
        cases split
    | false =>
        rw [hs] at split
        have behind : "uint".toList ++ "008".toList = "uint".toList ++ size := split
        exact (List.append_cancel_left behind).symm
  rcases written with ⟨none, -⟩ | digits
  · rw [eight] at none
    cases none
  · have value : Nat.ofDigitChars 10 size 0 = i.bits := by
      rw [digits]
      exact Nat.ofDigitChars_toDigits (by decide) (by decide)
    have bits : i.bits = 8 := by
      rw [← value, eight]
      rfl
    rw [eight, bits] at digits
    have zeros : "008".toList = Nat.toDigits 10 8 := digits
    exact absurd zeros (by decide)

theorem not_isType_padded : ¬ plain.IsType "uint008" := by
  rintro ⟨base, element, lengths, split, named, -⟩
  cases lengths with
  | cons length lengths =>
      have bracket : '[' ∈ "uint008".toList := by
        rw [split]
        exact List.mem_append_right _ List.mem_cons_self
      exact absurd bracket (by decide)
  | nil =>
      rw [List.flatMap_nil, List.append_nil] at split
      rw [← split] at named
      generalize hn : "uint008".toList = name at named
      cases named with
      | address | boolean | text | bytes | tuple | fixedBytes => cases hn
      | small named | large named => exact not_namesInteger_padded (hn ▸ named)

/-- An interface with a function of integers whose size has zeros in front. -/
def padded : String :=
  "[\x7b\"type\":\"function\",\"name\":\"f\",\"stateMutability\":\"view\"," ++
  "\"inputs\":[\x7b\"name\":\"x\",\"type\":\"uint008\"\x7d]," ++
  "\"outputs\":[\x7b\"name\":\"\",\"type\":\"bool\"\x7d]\x7d]"

/-- An interface file may have a type that is not written plainly, and there are bindings for it. -/
theorem not_isType_paddedAbi : ∃ abi groups, Abi.parse padded = .ok abi ∧
    declarations "A" abi = .ok groups ∧ "uint008" ∈ usedTypes abi ∧
    (∃ t, valueType "uint008" = .ok t) ∧ ¬ plain.IsType "uint008" := by
  have readable : (Abi.parse padded).toOption.any (fun abi =>
      (declarations "A" abi).toOption.any fun _ => decide ("uint008" ∈ usedTypes abi)) = true := by
    decide +kernel
  have supported : (valueType "uint008").toOption.any (fun _ => true) = true := by decide +kernel
  obtain ⟨abi, parsed, made⟩ := exists_of_any readable
  obtain ⟨groups, made, used⟩ := exists_of_any made
  obtain ⟨t, mapped, -⟩ := exists_of_any supported
  exact ⟨abi, groups, parsed, made, of_decide_eq_true used, ⟨t, mapped⟩, not_isType_padded⟩

end Subgraph.Ethereum

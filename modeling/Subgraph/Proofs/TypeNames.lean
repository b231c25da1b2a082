import Subgraph.Ethereum.ValueType

/-!
# TypeNames — the names of types

Types of values have names: those of elementary types, which may have a size in them, and array
groups behind such a name.

* `IntegerType`: which integer types there are, and what their values are.
* `Spelling.Names`, `Spelling.IsType`: the names of elementary types, and of all types, by how the
  numbers in them are written.
* `Spelling.plain`, `Spelling.loose`: how contracts write them, and what the bindings take for them.
* `ofName?_eq_some_iff`: the name of an elementary type is read in the loose spelling, and a small
  integer is one whose values all fit 32 bits with a sign.
-/

namespace Subgraph.Ethereum

/-! ### Integer types -/

/-- A type of integers: with a sign or without one, and of so many bits. -/
structure IntegerType where
  signed : Bool
  bits : Nat

namespace IntegerType

/-- What the names of the type begin with. -/
def word (i : IntegerType) : String := if i.signed then "int" else "uint"

/-- There is such a type. -/
structure IsValid (i : IntegerType) : Prop where
  whole : i.bits % 8 = 0
  least : 8 ≤ i.bits
  greatest : i.bits ≤ 256

/-- The number of bits that hold the size of a value: a sign takes one. -/
def width (i : IntegerType) : Nat := if i.signed then i.bits - 1 else i.bits

/-- `v` is a value of the type. -/
def Holds (i : IntegerType) (v : Int) : Prop :=
  (if i.signed then -(twoTo i.width : Int) else 0) ≤ v ∧ v < twoTo i.width

/-- Every value of the type fits 32 bits with a sign. -/
def IsSmall (i : IntegerType) : Prop := ∀ v, i.Holds v → Holds ⟨true, 32⟩ v

theorem twoTo_le_iff {m n : Nat} : twoTo m ≤ twoTo n ↔ m ≤ n :=
  Nat.pow_le_pow_iff_right (by decide)

/-- The greatest value of a type decides whether all fit. -/
theorem isSmall_iff {i : IntegerType} : i.IsSmall ↔ i.width ≤ 31 := by
  have pos : 0 < twoTo i.width := twoTo_pos _
  rw [← twoTo_le_iff]
  constructor
  · intro small
    have greatest : i.Holds (twoTo i.width - 1) := by
      refine ⟨?_, by omega⟩
      split <;> omega
    have fits : (twoTo i.width - 1 : Int) < twoTo 31 := (small _ greatest).2
    omega
  · rintro le v ⟨low, high⟩
    change -(twoTo 31 : Int) ≤ v ∧ v < twoTo 31
    split at low <;> omega

/-- The type in whose place the bindings put the integer type. -/
def element (i : IntegerType) : Elementary :=
  if i.bits ≤ (if i.signed then 32 else 24) then .small
  else if i.signed then .signed else .unsigned

/-- The bounds that the bindings go by are those of the values. -/
theorem IsValid.isSmall_iff {i : IntegerType} (h : i.IsValid) :
    i.IsSmall ↔ i.bits ≤ (if i.signed then 32 else 24) := by
  have whole := h.whole
  rw [IntegerType.isSmall_iff, width]
  split <;> omega

theorem IsValid.element_of_isSmall {i : IntegerType} (h : i.IsValid) (fits : i.IsSmall) :
    i.element = .small :=
  if_pos (h.isSmall_iff.mp fits)

theorem IsValid.element_of_not_isSmall {i : IntegerType} (h : i.IsValid) (exceeds : ¬ i.IsSmall) :
    i.element = if i.signed then .signed else .unsigned :=
  if_neg (mt h.isSmall_iff.mpr exceeds)

theorem isBitSize_iff {signed : Bool} {bits : Nat} :
    Elementary.isBitSize bits = true ↔ IsValid ⟨signed, bits⟩ := by
  simp only [Elementary.isBitSize, Bool.and_eq_true, beq_iff_eq, decide_eq_true_iff]
  exact ⟨fun ⟨⟨whole, least⟩, greatest⟩ => ⟨whole, least, greatest⟩,
    fun ⟨whole, least, greatest⟩ => ⟨⟨whole, least⟩, greatest⟩⟩

end IntegerType

/-! ### Names of types -/

/-- How the numbers in the name of a type are written. -/
structure Spelling where
  /-- The text stands for a size. -/
  IsSize : List Char → Nat → Prop
  /-- The text may stand between the brackets of an array group. -/
  IsLength : List Char → Prop

namespace Spelling

/-- Sizes in decimal, without a sign or zeros in front; between brackets a row of digits, or
nothing. -/
def plain : Spelling where
  IsSize text n := text = Nat.toDigits 10 n
  IsLength text := ∀ c ∈ text, c.isDigit = true

/-- Sizes in decimal, perhaps with zeros in front, and a plus sign before these; between brackets
any text without an opening one. -/
def loose : Spelling where
  IsSize text n := ∃ digits, (text = digits ∨ text = '+' :: digits) ∧ digits ≠ [] ∧
    (∀ d ∈ digits, d.isDigit = true) ∧ Decimal.digitsValue digits = n
  IsLength text := '[' ∉ text

/-- The name is that of an integer type; it may leave out a size of 256 bits. -/
def NamesInteger (s : Spelling) (name : List Char) (i : IntegerType) : Prop :=
  i.IsValid ∧ ∃ size, name = i.word.toList ++ size ∧
    (size = [] ∧ i.bits = 256 ∨ s.IsSize size i.bits)

/-- The name is that of an elementary type. -/
inductive Names (s : Spelling) : List Char → Elementary → Prop
  | address : s.Names "address".toList .address
  | boolean : s.Names "bool".toList .boolean
  | text : s.Names "string".toList .text
  | bytes : s.Names "bytes".toList .bytes
  | tuple : s.Names "tuple".toList .tuple
  | fixedBytes {size : List Char} {n : Nat} (written : s.IsSize size n) (least : 1 ≤ n)
      (greatest : n ≤ 32) : s.Names ("bytes".toList ++ size) .fixedBytes
  /-- An integer type all of whose values fit 32 bits with a sign. -/
  | small {name : List Char} {i : IntegerType} (named : s.NamesInteger name i) (fits : i.IsSmall) :
      s.Names name .small
  | large {name : List Char} {i : IntegerType} (named : s.NamesInteger name i)
      (exceeds : ¬ i.IsSmall) : s.Names name (if i.signed then .signed else .unsigned)

/-- An array group with this text between its brackets. -/
def group (length : List Char) : List Char := '[' :: (length ++ [']'])

/-- The name is that of an elementary type, with array groups behind it. -/
def IsType (s : Spelling) (type : String) : Prop :=
  ∃ (base : List Char) (element : Elementary) (lengths : List (List Char)),
    type.toList = base ++ lengths.flatMap group ∧ s.Names base element ∧
      ∀ length ∈ lengths, s.IsLength length

/-- One spelling allows what the other does. -/
structure Allows (s t : Spelling) : Prop where
  size : ∀ text n, t.IsSize text n → s.IsSize text n
  length : ∀ text, t.IsLength text → s.IsLength text

/-- **What is plain is allowed** in the loose spelling, too. -/
theorem allows_plain : loose.Allows plain where
  size text n h := by
    subst h
    refine ⟨_, .inl rfl, Nat.toDigits_ne_nil, fun d hd => ?_, ?_⟩
    · exact Nat.isDigit_of_mem_toDigits (by decide) (by decide) hd
    · exact Nat.ofDigitChars_toDigits (by decide) (by decide)
  length text h hm := absurd (h _ hm) (by decide)

section

variable {s t : Spelling}

theorem Allows.namesInteger (h : s.Allows t) {name : List Char} {i : IntegerType}
    (named : t.NamesInteger name i) : s.NamesInteger name i := by
  obtain ⟨valid, size, rfl, written⟩ := named
  exact ⟨valid, size, rfl, written.imp_right (h.size _ _)⟩

theorem Allows.names (h : s.Allows t) {name : List Char} {element : Elementary}
    (named : t.Names name element) : s.Names name element := by
  cases named with
  | address => exact .address
  | boolean => exact .boolean
  | text => exact .text
  | bytes => exact .bytes
  | tuple => exact .tuple
  | fixedBytes written least greatest => exact .fixedBytes (h.size _ _ written) least greatest
  | small named fits => exact .small (h.namesInteger named) fits
  | large named exceeds => exact .large (h.namesInteger named) exceeds

theorem Allows.isType (h : s.Allows t) {type : String} (written : t.IsType type) :
    s.IsType type := by
  obtain ⟨base, element, lengths, split, named, each⟩ := written
  exact ⟨base, element, lengths, split, h.names named, fun l hl => h.length l (each l hl)⟩

end

end Spelling

/-! ### The reading of elementary names -/

namespace Elementary

open Spelling

theorem size?_eq_some_iff {unwritten n : Nat} {text : List Char} :
    size? unwritten text = some n ↔
      text = [] ∧ n = unwritten ∨ loose.IsSize text n ∧ n < twoTo 16 := by
  have none {digits : List Char} (any : digits ≠ []) : ¬ ([] = digits ∨ [] = '+' :: digits) :=
    not_or.mpr ⟨any.symm, nofun⟩
  rcases text with _ | ⟨c, cs⟩
  · simp only [size?, if_true, Option.some.injEq, true_and]
    refine ⟨fun h => .inl h.symm, ?_⟩
    rintro (h | ⟨⟨digits, written, any, -⟩, -⟩)
    · exact h.symm
    · exact absurd written (none any)
  · rw [size?, if_neg (List.cons_ne_nil c cs)]
    dsimp only
    generalize hd : (if (c :: cs).head? = some '+' then (c :: cs).tail else c :: cs) = digits
    have written : c :: cs = digits ∨ c :: cs = '+' :: digits := by
      subst hd
      split
      · next plus =>
          cases plus
          exact .inr rfl
      · exact .inl rfl
    constructor
    · intro h
      split at h
      · next good =>
          cases h
          obtain ⟨any, all, bound⟩ := good
          exact .inr ⟨⟨digits, written, any, List.all_eq_true.mp all, rfl⟩, bound⟩
      · cases h
    · rintro (⟨⟨⟩, -⟩ | ⟨⟨digits', written', any, all, rfl⟩, bound⟩)
      have same : digits = digits' := by
        rcases written' with rfl | h
        · rw [← hd]
          refine if_neg fun plus => ?_
          cases plus
          exact absurd (all _ List.mem_cons_self) (by decide)
        · rw [← hd, h]
          rfl
      subst same
      rw [if_pos ⟨any, List.all_eq_true.mpr all, bound⟩]

theorem ofName?_bytes {size : List Char} (any : size ≠ []) :
    ofName? ("bytes".toList ++ size) =
      match size? 0 size with
      | some n => if 1 ≤ n ∧ n ≤ 32 then some .fixedBytes else none
      | none => none := by
  simp [ofName?, after?, any]
  rfl

/-- Integer types with a sign and those without one are read alike. -/
theorem ofName?_integer (signed : Bool) (size : List Char) :
    ofName? ((IntegerType.mk signed 0).word.toList ++ size) =
      match size? 256 size with
      | some bits => if isBitSize bits then some (IntegerType.element ⟨signed, bits⟩) else none
      | none => none := by
  cases signed <;> simp [ofName?, after?, IntegerType.word, IntegerType.element] <;> rfl

/-- A name that is read as an elementary type is one of five words, or has a size behind one of
three. -/
theorem ofName?_cases {name : List Char} {element : Elementary} (h : ofName? name = some element) :
    loose.Names name element ∨ (∃ size, size ≠ [] ∧ name = "bytes".toList ++ size) ∨
      ∃ signed size, name = (IntegerType.mk signed 0).word.toList ++ size := by
  have split {word : String} {rest : List Char} (h : after? word name = some rest) :
      name = word.toList ++ rest := by
    unfold after? at h
    split at h
    · next start =>
        obtain ⟨rest, rfl⟩ := List.isPrefixOf_iff_prefix.mp start
        cases h
        rw [← String.length_toList, List.drop_left]
    · cases h
  unfold ofName? at h
  split at h
  · next same =>
      cases h
      exact .inl (same ▸ .address)
  split at h
  · next same =>
      cases h
      exact .inl (same ▸ .boolean)
  split at h
  · next same =>
      cases h
      exact .inl (same ▸ .text)
  split at h
  · next same =>
      cases h
      exact .inl (same ▸ .bytes)
  next other =>
  split at h
  · next same =>
      cases h
      exact .inl (same ▸ .tuple)
  split at h
  · next size behind =>
      refine .inr (.inl ⟨size, ?_, split behind⟩)
      rintro rfl
      exact other (by rw [split behind, List.append_nil])
  split at h
  · next size behind => exact .inr (.inr ⟨false, size, split behind⟩)
  split at h
  · next size behind => exact .inr (.inr ⟨true, size, split behind⟩)
  · cases h

theorem names_of_bytes {size : List Char} {element : Elementary} (any : size ≠ [])
    (h : ofName? ("bytes".toList ++ size) = some element) :
    loose.Names ("bytes".toList ++ size) element := by
  rw [ofName?_bytes any] at h
  split at h
  · next n found =>
      split at h
      · next bounds =>
          cases h
          rcases size?_eq_some_iff.mp found with ⟨none, -⟩ | ⟨written, -⟩
          · exact absurd none any
          · exact .fixedBytes written bounds.1 bounds.2
      · cases h
  · cases h

theorem names_of_integer {signed : Bool} {size : List Char} {element : Elementary}
    (h : ofName? ((IntegerType.mk signed 0).word.toList ++ size) = some element) :
    loose.Names ((IntegerType.mk signed 0).word.toList ++ size) element := by
  rw [ofName?_integer] at h
  split at h
  · next bits found =>
      split at h
      · next sized =>
          cases h
          have valid : IntegerType.IsValid ⟨signed, bits⟩ := IntegerType.isBitSize_iff.mp sized
          have named : loose.NamesInteger ((IntegerType.mk signed 0).word.toList ++ size)
              ⟨signed, bits⟩ :=
            ⟨valid, size, rfl, (size?_eq_some_iff.mp found).imp_right And.left⟩
          by_cases fits : IntegerType.IsSmall ⟨signed, bits⟩
          · rw [valid.element_of_isSmall fits]
            exact .small named fits
          · rw [valid.element_of_not_isSmall fits]
            exact .large named fits
      · cases h
  · cases h

theorem ofName?_of_isSize {size : List Char} {n : Nat} (written : loose.IsSize size n)
    (least : 1 ≤ n) (greatest : n ≤ 32) :
    ofName? ("bytes".toList ++ size) = some .fixedBytes := by
  have bound : n < twoTo 16 := Nat.lt_of_le_of_lt greatest (by decide)
  have any : size ≠ [] := by
    rintro rfl
    obtain ⟨digits, written, any, -⟩ := written
    exact written.elim (fun none => any none.symm) nofun
  rw [ofName?_bytes any, size?_eq_some_iff.mpr (.inr ⟨written, bound⟩)]
  exact if_pos ⟨least, greatest⟩

theorem ofName?_of_namesInteger {name : List Char} {i : IntegerType}
    (named : loose.NamesInteger name i) : ofName? name = some i.element := by
  obtain ⟨valid, size, rfl, written⟩ := named
  have bound : i.bits < twoTo 16 := Nat.lt_of_le_of_lt valid.greatest (by decide)
  have found : size? 256 size = some i.bits :=
    size?_eq_some_iff.mpr (written.imp_right fun written => ⟨written, bound⟩)
  have read := ofName?_integer i.signed size
  rw [found] at read
  exact read.trans (if_pos (IntegerType.isBitSize_iff.mpr valid))

/-- **The reading of elementary names.** -/
theorem ofName?_eq_some_iff {name : List Char} {element : Elementary} :
    ofName? name = some element ↔ loose.Names name element := by
  constructor
  · intro h
    rcases ofName?_cases h with named | ⟨size, any, rfl⟩ | ⟨signed, size, rfl⟩
    · exact named
    · exact names_of_bytes any h
    · exact names_of_integer h
  · intro named
    cases named with
    | address | boolean | text | bytes | tuple => rfl
    | fixedBytes written least greatest => exact ofName?_of_isSize written least greatest
    | small named fits =>
        rw [ofName?_of_namesInteger named, named.1.element_of_isSmall fits]
    | large named exceeds =>
        rw [ofName?_of_namesInteger named, named.1.element_of_not_isSmall exceeds]

end Elementary

end Subgraph.Ethereum

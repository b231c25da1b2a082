import Subgraph.Error
import Subgraph.Generated.Expr
import Subgraph.Decimal

/-!
# Ethereum — value types

A parameter of a contract has a Solidity type, written as an elementary type with array groups
behind it: `uint256[3][]`.  `valueType` says how a value of the type appears in the bindings: the
type it has there, how it is read from a decoded value, and how it is passed on.

* A plain element has a mapping of its own, and so has an array of elements.
* An array of arrays stays undecoded, whatever its element is, as long as the element is supported.
* A small integer, one that always fits 32 bits with a sign, is a machine integer; others are
  arbitrary-precision integers.
-/

namespace Subgraph.Ethereum

/-- How values of a type appear in the bindings. -/
structure ValueType where
  /-- The type of the value. -/
  ascription : String
  /-- The method that reads the value. -/
  reader : String
  /-- The function that makes a value to be passed on. -/
  writer : String
  deriving DecidableEq, Repr

namespace ValueType

/-- The value read from a decoded one. -/
def read (t : ValueType) (decoded : Generated.Expr) : Generated.Expr := decoded.send t.reader []

/-- The value made of an expression, to be passed on. -/
def write (t : ValueType) (value : Generated.Expr) : Generated.Expr :=
  .call (.member (.word "ethereum.Value") t.writer) [value]

end ValueType

/-- The elementary types, as far as the bindings tell them apart. -/
inductive Elementary where
  | address
  | boolean
  | text
  | bytes
  | fixedBytes
  /-- An integer that fits 32 bits with a sign. -/
  | small
  | signed
  | unsigned
  | tuple
  deriving DecidableEq, Repr

namespace Elementary

/-- A size behind a type name: a number below `2 ^ 16`, of any number of digits, perhaps after a
plus sign.  No text stands for the size `unwritten`. -/
def size? (unwritten : Nat) (text : List Char) : Option Nat :=
  if text = [] then some unwritten
  else
    let digits := if text.head? = some '+' then text.tail else text
    if digits ≠ [] ∧ digits.all Char.isDigit ∧ Decimal.digitsValue digits < twoTo 16 then
      some (Decimal.digitsValue digits)
    else none

/-- An integer may have this many bits. -/
def isBitSize (bits : Nat) : Bool := bits % 8 == 0 && 8 ≤ bits && bits ≤ 256

/-- The rest of a text that begins with `word`. -/
def after? (word : String) (text : List Char) : Option (List Char) :=
  if word.toList.isPrefixOf text then some (text.drop word.length) else none

/-- The elementary type of this name. -/
def ofName? (name : List Char) : Option Elementary :=
  if name = "address".toList then some .address
  else if name = "bool".toList then some .boolean
  else if name = "string".toList then some .text
  else if name = "bytes".toList then some .bytes
  else if name = "tuple".toList then some .tuple
  else if let some rest := after? "bytes" name then
    match size? 0 rest with
    | some n => if 1 ≤ n ∧ n ≤ 32 then some .fixedBytes else none
    | none => none
  else if let some rest := after? "uint" name then
    match size? 256 rest with
    | some bits => if isBitSize bits then some (if bits ≤ 24 then .small else .unsigned) else none
    | none => none
  else if let some rest := after? "int" name then
    match size? 256 rest with
    | some bits => if isBitSize bits then some (if bits ≤ 32 then .small else .signed) else none
    | none => none
  else none

/-- How one value appears. -/
def scalar : Elementary → ValueType
  | .address => ⟨"Address", "toAddress", "fromAddress"⟩
  | .boolean => ⟨"boolean", "toBoolean", "fromBoolean"⟩
  | .text => ⟨"string", "toString", "fromString"⟩
  | .bytes => ⟨"Bytes", "toBytes", "fromBytes"⟩
  | .fixedBytes => ⟨"Bytes", "toBytes", "fromFixedBytes"⟩
  | .small => ⟨"i32", "toI32", "fromI32"⟩
  | .signed => ⟨"BigInt", "toBigInt", "fromSignedBigInt"⟩
  | .unsigned => ⟨"BigInt", "toBigInt", "fromUnsignedBigInt"⟩
  | .tuple => ⟨"ethereum.Tuple", "toTuple", "fromTuple"⟩

/-- How an array of values appears. -/
def array : Elementary → ValueType
  | .address => ⟨"Array<Address>", "toAddressArray", "fromAddressArray"⟩
  | .boolean => ⟨"Array<boolean>", "toBooleanArray", "fromBooleanArray"⟩
  | .text => ⟨"Array<string>", "toStringArray", "fromStringArray"⟩
  | .bytes => ⟨"Array<Bytes>", "toBytesArray", "fromBytesArray"⟩
  | .fixedBytes => ⟨"Array<Bytes>", "toBytesArray", "fromFixedBytesArray"⟩
  | .small => ⟨"Array<i32>", "toI32Array", "fromI32Array"⟩
  | .signed => ⟨"Array<BigInt>", "toBigIntArray", "fromSignedBigIntArray"⟩
  | .unsigned => ⟨"Array<BigInt>", "toBigIntArray", "fromUnsignedBigIntArray"⟩
  | .tuple => ⟨"Array<ethereum.Tuple>", "toTupleArray<ethereum.Tuple>", "fromTupleArray"⟩

end Elementary

/-- How values of undecoded arrays appear. -/
def undecodedArray : ValueType := ⟨"Array<ethereum.Value>", "toArray", "fromArray"⟩

/-! ### Array groups -/

/-- A type without its last array group: what stands before the last opening bracket, when the
type ends with a closing one. -/
def withoutGroup? (type : List Char) : Option (List Char) :=
  match type.reverse with
  | ']' :: before =>
    match before.dropWhile (· != '[') with
    | _ :: element => some element.reverse
    | [] => none
  | _ => none

theorem length_withoutGroup? {type inner : List Char} (h : withoutGroup? type = some inner) :
    inner.length < type.length := by
  unfold withoutGroup? at h
  split at h
  · next before hb =>
      split at h
      · next c element he =>
          cases h
          have h1 : type.reverse.length = type.length := List.length_reverse
          have h2 : (before.dropWhile (· != '[')).length ≤ before.length :=
            (List.dropWhile_suffix _).length_le
          rw [he] at h2
          rw [hb] at h1
          simp at h1 h2 ⊢
          omega
      · cases h
  · cases h

/-- The number of array groups of a type, and its element type. -/
def groups (type : List Char) : Nat × List Char :=
  match h : withoutGroup? type with
  | none => (0, type)
  | some inner =>
    have := length_withoutGroup? h
    let (n, element) := groups inner
    (n + 1, element)
termination_by type.length

/-- How values of a type appear, if the type is supported. -/
def valueType (type : String) : Except AbiError ValueType :=
  match groups type.toList with
  | (n, name) =>
    match Elementary.ofName? name with
    | none => .error (.unsupportedType type)
    | some element =>
      .ok (match n with
        | 0 => element.scalar
        | 1 => element.array
        | _ => undecodedArray)

end Subgraph.Ethereum

import Subgraph.Yaml.Token
import Subgraph.Yaml.Value
import Subgraph.Text.Hex

/-!
# Yaml — scalars

The text of a scalar decides what it means: null, a truth value, a number, or else a string.  Only a
plain scalar without a tag is looked at in this way; a tag says what a scalar must be, unless it is
one of the document's own that has no name.
`Scalar.value?` is the rule.
-/

namespace Subgraph.Yaml

namespace Scalar

/-! ### Words -/

def isNullWord (text : String) : Bool := ["null", "Null", "NULL", "~"].contains text

def bool? (text : String) : Option Bool :=
  if ["true", "True", "TRUE"].contains text then some true
  else if ["false", "False", "FALSE"].contains text then some false
  else none

/-! ### Integers -/

/-- The number that a row of digits is in a base of at most sixteen. -/
def digits? (base : Nat) (text : List Char) : Option Nat :=
  if text = [] then none
  else text.foldlM (fun n c => (Text.hexDigit? c).bind fun digit =>
    if digit < base then some (n * base + digit) else none) 0

/-- A row of digits without a sign: in decimal, or in the base that the letter after a zero names.
-/
def magnitude? : List Char → Option Nat
  | '0' :: 'x' :: digits => digits? 16 digits
  | '0' :: 'o' :: digits => digits? 8 digits
  | '0' :: 'b' :: digits => digits? 2 digits
  | digits => digits? 10 digits

/-- A text without the sign before it. -/
def unsigned : List Char → List Char
  | '+' :: rest => rest
  | '-' :: rest => rest
  | text => text

/-- Digits that begin with a zero too many are no number. -/
def isPadded (text : List Char) : Bool :=
  match unsigned text with
  | '0' :: c :: rest => (c :: rest).all Char.isDigit
  | _ => false

/-- An integer that is not negative. -/
def natural? (text : List Char) : Option Nat :=
  if isPadded text then none
  else magnitude? (if text.head? = some '+' then text.tail else text)

/-- An integer. -/
def integer? (text : List Char) : Option Int :=
  match text with
  | '-' :: digits =>
    if isPadded text then none else (magnitude? digits).map fun n => -(n : Int)
  | _ => (natural? text).map fun n => (n : Int)

/-! ### Floats -/

def isInfinityWord (text : List Char) : Bool :=
  [".inf", ".Inf", ".INF"].contains (String.ofList text)

def isNanWord (text : List Char) : Bool :=
  [".nan", ".NaN", ".NAN"].contains (String.ofList text)

/-- A decimal that is not beyond all doubles, as the nearest one. -/
def double? (negative : Bool) (text : List Char) : Option Number :=
  match Decimal.ofText? text with
  | some d => if d.overflows then none else some (.float (d.nearest negative))
  | none => none

/-- A float. -/
def float? (text : List Char) : Option Number :=
  if isNanWord text then some .nan
  else match text with
    | '-' :: rest => if isInfinityWord rest then some (.infinity true) else double? true rest
    | _ =>
      let rest := if text.head? = some '+' then text.tail else text
      if isInfinityWord rest then some (.infinity false) else double? false rest

/-! ### The meaning of a scalar -/

/-- How integers of a size are dealt with. -/
inductive IntegerSize where
  | held
  /-- Too large to be held, but not to be refused as an integer. -/
  | refused
  /-- So large that it is not an integer. -/
  | beyond
  deriving DecidableEq, Repr

/-- Integers of 64 bits are held, with a sign or without; those that take up to 128 bits are
refused. -/
def integerSize (n : Int) : IntegerSize :=
  if -(twoTo 63) ≤ n ∧ n < twoTo 64 then .held
  else if -(twoTo 127) ≤ n ∧ n < twoTo 128 then .refused
  else .beyond

/-- What is left when a text is no integer. -/
def notInteger (text : String) : Value :=
  if isPadded text.toList then .string text
  else match float? text.toList with
    | some number => .number number
    | none => .string text

/-- The value of a plain scalar without a tag. -/
def plain? (text : String) : Option Value :=
  if text = "" ∨ isNullWord text then some .null
  else match bool? text with
    | some value => some (.bool value)
    | none => match integer? text.toList with
      | none => some (notInteger text)
      | some n => match integerSize n with
        | .held => some (.number (.integer n))
        | .refused => none
        | .beyond => some (notInteger text)

/-- The types that a tag can ask for. -/
inductive CoreType where
  | null | bool | integer | float
  deriving DecidableEq, Repr

/-- The tags that ask for a type. -/
def coreTags : List (TagText × CoreType) :=
  [(.ofAscii "tag:yaml.org,2002:null", .null), (.ofAscii "tag:yaml.org,2002:bool", .bool),
   (.ofAscii "tag:yaml.org,2002:int", .integer), (.ofAscii "tag:yaml.org,2002:float", .float)]

/-- The type that a tag asks for. -/
def coreType? (tag : TagText) : Option CoreType := coreTags.lookup tag

/-- The value of a type that a text stands for. -/
def ofType? (type : CoreType) (text : String) : Option Value :=
  match type with
  | .null => if isNullWord text then some .null else none
  | .bool => (bool? text).map .bool
  | .integer => do
    let n ← integer? text.toList
    if integerSize n = .held then some (.number (.integer n)) else none
  | .float => (float? text.toList).map .number

/-- A tag of the document's own. -/
def isPrivate (tag : TagText) : Bool := tag.head? == some '!'.toUInt8

/-- A tag of the document's own that has a name; values have no place for it. -/
def isRefused (tag : TagText) : Bool := isPrivate tag && tag.isReadable

/-- The value of a scalar. -/
def value? (tag? : Option TagText) (style : ScalarStyle) (text : String) : Option Value :=
  let untagged := if style = .plain then plain? text else some (.string text)
  match tag? with
  | none => untagged
  | some tag =>
    if isRefused tag then none
    else if isPrivate tag then untagged
    else match coreType? tag with
      | some type => ofType? type text
      | none => some (.string text)

end Scalar

end Subgraph.Yaml

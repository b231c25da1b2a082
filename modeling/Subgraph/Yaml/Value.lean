import Subgraph.Decimal.Shortest

/-!
# Yaml — values

What a node means when nothing is said about its type: `Value`.  `Value.same` is the equality by
which a mapping has a key once: the order of fields does not count, and neither does the sign of
zero.
-/

namespace Subgraph.Yaml

/-- A number. -/
inductive Number where
  | integer (n : Int)
  | float (d : Double)
  | infinity (negative : Bool)
  | nan
  deriving DecidableEq, Repr, Inhabited

namespace Number

/-- The text of a number.  That of a float tells it from an integer. -/
def text : Number → String
  | .integer n => toString n
  | .float d => d.text
  | .infinity false => ".inf"
  | .infinity true => "-.inf"
  | .nan => ".nan"

/-- The numbers are of one type and equal. -/
def same : Number → Number → Bool
  | .float a, .float b => a.same b
  | a, b => a == b

end Number

/-- A value. -/
inductive Value where
  | null
  | bool (value : Bool)
  | number (number : Number)
  | string (text : String)
  | sequence (items : List Value)
  | mapping (fields : List (Value × Value))
  deriving Repr, Inhabited

namespace Value

mutual

/-- The values are equal. -/
def same : Value → Value → Bool
  | .null, .null => true
  | .bool a, .bool b => a == b
  | .number a, .number b => a.same b
  | .string a, .string b => a == b
  | .sequence a, .sequence b => sameItems a b
  | .mapping a, .mapping b => a.length == b.length && within a b
  | _, _ => false

def sameItems : List Value → List Value → Bool
  | [], [] => true
  | a :: as, b :: bs => a.same b && sameItems as bs
  | _, _ => false

/-- Each field is among the others. -/
def within : List (Value × Value) → List (Value × Value) → Bool
  | [], _ => true
  | (key, value) :: fields, others =>
    others.any (fun other => key.same other.1 && value.same other.2) && within fields others

end

/-- No key is there twice. -/
def distinctKeys : List (Value × Value) → Bool
  | [] => true
  | (key, _) :: fields => !fields.any (fun field => key.same field.1) && distinctKeys fields

end Value

end Subgraph.Yaml

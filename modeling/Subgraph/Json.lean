/-!
# Json — values of JSON documents

A JSON value keeps the fields of an object in the order of the text, repeated keys included, and a
number as it is written.  `Json.field?` looks a key up; of repeated fields the last one counts.
-/

namespace Subgraph

/-- A JSON value. -/
inductive Json where
  | null
  | bool (value : Bool)
  /-- A number, by its text. -/
  | number (text : String)
  | string (text : String)
  | array (items : List Json)
  | object (fields : List (String × Json))
  deriving Repr, Inhabited, BEq

namespace Json

/-- The value of the last field with this key. -/
def lastOf (key : String) (fields : List (String × Json)) : Option Json :=
  (fields.reverse.find? fun field => field.1 == key).map Prod.snd

/-- The value of an object's last field with this key. -/
def field? (key : String) : Json → Option Json
  | .object fields => lastOf key fields
  | _ => none

def string? : Json → Option String
  | .string text => some text
  | _ => none

def bool? : Json → Option Bool
  | .bool value => some value
  | _ => none

def array? : Json → Option (List Json)
  | .array items => some items
  | _ => none

def isNull : Json → Bool
  | .null => true
  | _ => false

/-- The parts of a record, which is an object with some of these keys, or an array of the parts in
the order of the keys; an array may end early. -/
def parts? (keys : List String) : Json → Option (List (Option Json))
  | .object fields => some (keys.map (lastOf · fields))
  | .array items =>
    if items.length ≤ keys.length then some ((List.range keys.length).map (items[·]?)) else none
  | _ => none

mutual

/-- How many arrays and objects are inside one another. -/
def height : Json → Nat
  | .array items => heightOfItems items + 1
  | .object fields => heightOfFields fields + 1
  | _ => 0

def heightOfItems : List Json → Nat
  | [] => 0
  | item :: items => max item.height (heightOfItems items)

def heightOfFields : List (String × Json) → Nat
  | [] => 0
  | (_, value) :: fields => max value.height (heightOfFields fields)

end

theorem lastOf_append (key : String) (a b : List (String × Json)) :
    lastOf key (a ++ b) = (lastOf key b).or (lastOf key a) := by
  simp only [lastOf, List.reverse_append, List.find?_append]
  cases b.reverse.find? fun field => field.1 == key <;> simp

/-- A field behind all others counts. -/
@[simp] theorem lastOf_concat (key : String) (fields : List (String × Json)) (value : Json) :
    lastOf key (fields ++ [(key, value)]) = some value := by
  simp [lastOf]

end Json

end Subgraph

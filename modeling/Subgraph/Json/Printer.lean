import Subgraph.Json

/-!
# Json — writing

`Json.pretty` lays a value out over lines with two spaces for each level; an empty array or object
stays on one line.  `Json.compact` writes a value without any gaps.
-/

namespace Subgraph.Json

/-- The two lower-case hexadecimal digits of a number below 256. -/
def hexPair (n : Nat) : String :=
  String.ofList [Nat.digitChar (n / 16), Nat.digitChar (n % 16)]

/-- `c` as it is written between the quotes. -/
def escape (c : Char) : String :=
  if c = '"' then "\\\""
  else if c = '\\' then "\\\\"
  else if c = '\n' then "\\n"
  else if c = '\r' then "\\r"
  else if c = '\t' then "\\t"
  else if c = '\x08' then "\\b"
  else if c = '\x0c' then "\\f"
  else if c < ' ' then "\\u00" ++ hexPair c.toNat
  else String.singleton c

/-- A string as a literal. -/
def quote (text : String) : String := "\"" ++ String.join (text.toList.map escape) ++ "\""

/-- The start of a line at a level. -/
def margin (level : Nat) : String := String.ofList (List.replicate (2 * level) ' ')

/-- Lines of a level between two brackets. -/
def block (level : Nat) (opening closing : String) : List String → String
  | [] => opening ++ closing
  | entries =>
    opening ++ "\n" ++ String.intercalate ",\n" (entries.map (margin (level + 1) ++ ·)) ++ "\n"
      ++ margin level ++ closing

mutual

/-- A value at a level, over lines. -/
def prettyAt (level : Nat) : Json → String
  | .null => "null"
  | .bool true => "true"
  | .bool false => "false"
  | .number text => text
  | .string text => quote text
  | .array items => block level "[" "]" (prettyItems (level + 1) items)
  | .object fields => block level "\x7b" "\x7d" (prettyFields (level + 1) fields)

def prettyItems (level : Nat) : List Json → List String
  | [] => []
  | item :: items => prettyAt level item :: prettyItems level items

def prettyFields (level : Nat) : List (String × Json) → List String
  | [] => []
  | (key, value) :: fields =>
    (quote key ++ ": " ++ prettyAt level value) :: prettyFields level fields

end

/-- A value over lines. -/
def pretty (value : Json) : String := prettyAt 0 value

mutual

/-- A value on one line, without gaps. -/
def compact : Json → String
  | .null => "null"
  | .bool true => "true"
  | .bool false => "false"
  | .number text => text
  | .string text => quote text
  | .array items => "[" ++ String.intercalate "," (compactItems items) ++ "]"
  | .object fields => "\x7b" ++ String.intercalate "," (compactFields fields) ++ "\x7d"

def compactItems : List Json → List String
  | [] => []
  | item :: items => compact item :: compactItems items

def compactFields : List (String × Json) → List String
  | [] => []
  | (key, value) :: fields => (quote key ++ ":" ++ compact value) :: compactFields fields

end

end Subgraph.Json

import Subgraph.Layout
import Subgraph.Error

/-!
# Generated — modules

A generated file opens with a note that it is generated, then come its imports and its declarations;
`moduleText` is that file laid out.
-/

namespace Subgraph.Generated

/-- The first line of every generated file. -/
def generatedNote : String := "// THIS IS AN AUTOGENERATED FILE. DO NOT EDIT THIS FILE DIRECTLY."

/-- The library that generated files import from. -/
def bindingLibrary : String := "@graphprotocol/graph-ts"

/-- The line that imports some names from a library. -/
def importLine (names : List String) (library : String) : String :=
  "import \x7b " ++ String.intercalate ", " names ++ " \x7d from \"" ++ library ++ "\";"

/-- A file before it is laid out. -/
def looseText (imports declarations : List String) : String :=
  String.intercalate "\n" (generatedNote :: (imports ++ declarations))

/-- A generated file. -/
def moduleText (imports declarations : List String) : Outcome String :=
  (Layout.format (looseText imports declarations)).mapError fun problem => .format problem.message

end Subgraph.Generated

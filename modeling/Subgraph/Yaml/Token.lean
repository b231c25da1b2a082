/-!
# Yaml — tokens

A YAML document is a sequence of tokens.  Those that begin and end blocks have no text of their own:
indentation makes them.
-/

namespace Subgraph.Yaml

/-- The text of a tag.  It may name any octets, whether they make characters or not. -/
abbrev TagText := List UInt8

namespace TagText

/-- A text of ASCII characters. -/
def ofAscii (text : String) : TagText := text.toList.map Char.toUInt8

/-- The octets make characters. -/
def isReadable (text : TagText) : Bool := (String.fromUTF8? ⟨text.toArray⟩).isSome

/-- What stands before the first octet that is zero, at which a tag ends. -/
def untilZero (text : TagText) : TagText := text.takeWhile (· != 0)

end TagText

/-- How a scalar is written. -/
inductive ScalarStyle where
  | plain
  /-- Between quotes of either kind. -/
  | quoted
  /-- As a block whose line ends are kept. -/
  | literal
  /-- As a block whose line ends are folded. -/
  | folded
  deriving DecidableEq, Repr, Inhabited

/-- A token. -/
inductive Token where
  | version (major minor : Nat)
  /-- A directive that gives tags with a handle a beginning. -/
  | tagHandle (handle : String) (beginning : TagText)
  | documentStart
  | documentEnd
  | blockSequence
  | blockMapping
  | blockEnd
  | flowSequence
  | flowSequenceEnd
  | flowMapping
  | flowMappingEnd
  | flowEntry
  | blockEntry
  | key
  | value
  | alias (name : String)
  | anchor (name : String)
  /-- A tag: its handle, empty for a tag written in full, and the rest. -/
  | tag (handle : String) (rest : TagText)
  | scalar (style : ScalarStyle) (text : String)
  deriving DecidableEq, Repr, Inhabited

end Subgraph.Yaml

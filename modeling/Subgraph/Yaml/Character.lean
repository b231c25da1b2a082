import Subgraph.Text.Ranges

/-!
# Yaml — characters

The classes of characters that decide where the parts of a YAML document begin and end, and the
text a document is read from: `sourceText` replaces line ends of several kinds by a line feed, and
refuses control characters.
-/

namespace Subgraph.Yaml

/-- A space or a tab. -/
def isSpace (c : Char) : Bool := c == ' ' || c == '\t'

/-- A line end.  Of the kinds that a text may have, three are left after `sourceText`. -/
def isBreak (c : Char) : Bool := c == '\n' || c == '\u2028' || c == '\u2029'

/-- A character that ends a word. -/
def isGap (c : Char) : Bool := isSpace c || isBreak c

/-- A word ends here: at a gap, or at the end of the text. -/
def atGap : List Char → Bool
  | [] => true
  | c :: _ => isGap c

/-- A character of the names of anchors, handles and directives. -/
def isNameChar (c : Char) : Bool := c.isAlphanum || c == '_' || c == '-'

/-- The byte order mark.  It may stand at the start of a line, where it takes a column. -/
def byteOrderMark : Char := '\uFEFF'

/-- Three times the same character and then a gap. -/
def isTriple (mark : Char) : List Char → Bool
  | a :: b :: c :: rest => a == mark && b == mark && c == mark && atGap rest
  | _ => false

/-- The mark that begins a document, or the one that ends it. -/
def isDocumentMark (text : List Char) : Bool := isTriple '-' text || isTriple '.' text

/-- What follows a line of which nothing is left but spaces and perhaps a comment. -/
def afterLine? (text : List Char) : Option (List Char) :=
  let text := text.dropWhile isSpace
  let text := if text.head? = some '#' then text.dropWhile (!isBreak ·) else text
  match text with
  | [] => some []
  | c :: rest => if isBreak c then some rest else none

/-- The characters that a document may hold. -/
def allowedRanges : List (Nat × Nat) :=
  [(0x9, 0xA), (0xD, 0xD), (0x20, 0x7E), (0x85, 0x85), (0xA0, 0xD7FF), (0xE000, 0xFFFD),
   (0x10000, 0x10FFFF)]

/-- A text in which each line end but two kinds of separators is a line feed. -/
def withFeeds : List Char → List Char
  | [] => []
  | '\r' :: '\n' :: rest => '\n' :: withFeeds rest
  | c :: rest => (if c = '\r' ∨ c = '\u0085' then '\n' else c) :: withFeeds rest

/-- The text that a document is read from, if it has no character that is not allowed. -/
def sourceText (text : List Char) : Option (List Char) :=
  if text.all (Text.inRanges allowedRanges) then some (withFeeds text) else none

end Subgraph.Yaml

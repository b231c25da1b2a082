/-!
# Text — places counted in octets

A text takes so many octets in UTF-8 (`octets`).  `dropOctets` and `takeOctets` divide a text at a
place that is counted in octets; a character across the place goes to the part before it.
-/

namespace Subgraph.Text

/-- The number of octets of a text. -/
def octets : List Char → Nat
  | [] => 0
  | c :: text => c.utf8Size + octets text

/-- A text from the octet with this number on. -/
def dropOctets : Nat → List Char → List Char
  | 0, text => text
  | _ + 1, [] => []
  | n + 1, c :: text => dropOctets (n + 1 - c.utf8Size) text

/-- So many octets of a text. -/
def takeOctets : Nat → List Char → List Char
  | 0, _ => []
  | _ + 1, [] => []
  | n + 1, c :: text => c :: takeOctets (n + 1 - c.utf8Size) text

end Subgraph.Text

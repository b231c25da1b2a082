import Subgraph.Text.Ranges
import Subgraph.Text.HiddenTable

/-!
# Text — characters in messages

`shownChar` names a character in a message: between single quotes, with an escape for one that does
not show by itself.
-/

namespace Subgraph.Text

/-- The hexadecimal digits of a code point. -/
def codePointDigits (c : Char) : String := String.ofList (Nat.toDigits 16 c.toNat)

/-- `c` between single quotes. -/
def shownChar (c : Char) : String :=
  let inside :=
    if c = '\x00' then "\\0"
    else if c = '\t' then "\\t"
    else if c = '\r' then "\\r"
    else if c = '\n' then "\\n"
    else if c = '\\' then "\\\\"
    else if c = '\x27' then "\\'"
    else if inRanges hiddenRanges c then "\\u\x7b" ++ codePointDigits c ++ "\x7d"
    else String.singleton c
  "'" ++ inside ++ "'"

end Subgraph.Text

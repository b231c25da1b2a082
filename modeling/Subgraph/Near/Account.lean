/-!
# Near — accounts

An account is named by 2 to 64 small letters, digits and separators; a separator stands between two
characters that are none.  `accountProblem?` says what keeps a text from being such a name.  Lengths
are counted in bytes of UTF-8.
-/

namespace Subgraph.Near

/-- Why a text names no account. -/
inductive AccountProblem where
  | wrongLength
  | badSeparator (c : Char)
  | badCharacter (c : Char)
  | endsWithSeparator
  deriving DecidableEq, Repr

def AccountProblem.message : AccountProblem → String
  | .wrongLength => "must be 2 to 64 characters long"
  | .badSeparator c => s!"unexpected separator '{c}'"
  | .badCharacter c => s!"invalid character '{c}'"
  | .endsWithSeparator => "must not end with a separator"

def isSeparator (c : Char) : Bool := c == '-' || c == '_' || c == '.'

/-- `c` may stand in the name of an account and is no separator. -/
def isNameChar (c : Char) : Bool := c.isLower || c.isDigit

/-- What is wrong with the rest of a name; `start` says that no separator may come next. -/
def restProblem? (start : Bool) : List Char → Option AccountProblem
  | [] => if start then some .endsWithSeparator else none
  | c :: cs =>
    if isSeparator c then
      if start then some (.badSeparator c) else restProblem? true cs
    else if isNameChar c then restProblem? false cs
    else some (.badCharacter c)

/-- What keeps `text` from naming an account. -/
def accountProblem? (text : String) : Option AccountProblem :=
  if text.utf8ByteSize < 2 ∨ 64 < text.utf8ByteSize then some .wrongLength
  else restProblem? true text.toList

end Subgraph.Near

/-!
# Cosmos — addresses

An address has the shape of bech32: a prefix of small letters and digits, a `1`, and at least six
characters of the bech32 alphabet, ninety bytes of UTF-8 at most.  The alphabet lacks the `1`, so
the last `1` ends the prefix.  The checksum is not computed.
-/

namespace Subgraph.Cosmos

/-- The characters of the data part. -/
def dataAlphabet : List Char := "qpzry9x8gf2tvdw0s3jn54khce6mua7l".toList

/-- Why a text is no address. -/
inductive AddressProblem where
  | tooLong
  | noSeparator
  | badPrefix (text : String)
  | shortData
  | badCharacter (c : Char)
  deriving DecidableEq, Repr

def AddressProblem.message : AddressProblem → String
  | .tooLong => "must be at most 90 characters"
  | .noSeparator => "must contain a human-readable prefix and '1' separator"
  | .badPrefix text => s!"invalid prefix '{text}'"
  | .shortData => "data part is too short"
  | .badCharacter c => s!"invalid character '{c}'"

/-- The parts of a text before and after its last `1`. -/
def splitLast? (text : List Char) : Option (List Char × List Char) :=
  match text.reverse.dropWhile (· != '1') with
  | _ :: before => some (before.reverse, (text.reverse.takeWhile (· != '1')).reverse)
  | [] => none

/-- `c` may stand in the prefix. -/
def isPrefixChar (c : Char) : Bool := c.isLower || c.isDigit

/-- What keeps `text` from being an address. -/
def addressProblem? (text : String) : Option AddressProblem :=
  if 90 < text.utf8ByteSize then some .tooLong
  else match splitLast? text.toList with
    | none => some .noSeparator
    | some (head, data) =>
      if head = [] ∨ !head.all isPrefixChar then some (.badPrefix (String.ofList head))
      else if (String.ofList data).utf8ByteSize < 6 then some .shortData
      else (data.find? fun c => !dataAlphabet.contains c).map .badCharacter

end Subgraph.Cosmos

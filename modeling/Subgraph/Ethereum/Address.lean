import Subgraph.Text.Hex

/-!
# Ethereum — contract addresses

An address is `0x` and forty hexadecimal digits; `addressProblem?` says what keeps a text from being
one.  Lengths are counted in bytes of UTF-8.
-/

namespace Subgraph.Ethereum

/-- Why a text is no contract address. -/
inductive AddressProblem where
  | noMark
  | wrongLength (bytes : Nat)
  | notHexadecimal
  deriving DecidableEq, Repr

def AddressProblem.message : AddressProblem → String
  | .noMark => "must start with 0x"
  | .wrongLength bytes => s!"must be 40 hexadecimal characters after 0x, got {bytes}"
  | .notHexadecimal => "contains non-hexadecimal characters"

/-- What keeps `text` from being a contract address. -/
def addressProblem? (text : String) : Option AddressProblem :=
  match text.toList with
  | '0' :: 'x' :: digits =>
    let bytes := (String.ofList digits).utf8ByteSize
    if bytes ≠ 40 then some (.wrongLength bytes)
    else if digits.all Text.isHexDigit then none
    else some .notHexadecimal
  | _ => some .noMark

end Subgraph.Ethereum

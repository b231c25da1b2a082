import Subgraph.Protocol
import Subgraph.Ethereum.Address
import Subgraph.Cosmos.Address
import Subgraph.Near.Account

/-!
# Contract — what identifies a contract

A contract is identified by an address or an account, as its family has it.
-/

namespace Subgraph.Family

/-- What identifies a contract of a family, in prose. -/
def identifierName : Family → String
  | .ethereum | .tendermint => "Contract address"
  | .near => "Account"

/-- What keeps a text from identifying a contract of a family. -/
def contractProblem? (f : Family) (text : String) : Option String :=
  match f with
  | .ethereum => (Ethereum.addressProblem? text).map Ethereum.AddressProblem.message
  | .near => (Near.accountProblem? text).map Near.AccountProblem.message
  | .tendermint => (Cosmos.addressProblem? text).map Cosmos.AddressProblem.message

end Subgraph.Family

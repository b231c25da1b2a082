/-!
# Protocol — families of chains and the identity of a project

A manifest says `kind` for each of its data sources.  A kind is an alias of one protocol family;
`Protocol.resolve` finds the family, and keeps the kind it was given for messages.  A kind that
is no alias gives an identity without a family: it accepts nothing, and the caller decides
whether that is fatal.

`Protocol.resolve_family_iff` says which kinds resolve: exactly the aliases.
-/

namespace Subgraph

/-- A protocol family. -/
inductive Family where
  | ethereum
  | near
  | tendermint
  deriving DecidableEq, Repr

namespace Family

/-- Every family, in the order they are listed. -/
def all : List Family := [.ethereum, .near, .tendermint]

/-- The name of a family in files and on the command line. -/
def name : Family → String
  | .ethereum => "ethereum"
  | .near => "near"
  | .tendermint => "tendermint"

/-- The family of this name. -/
def ofName? (text : String) : Option Family := all.find? fun f => f.name == text

/-- The name of a family in prose. -/
def displayName : Family → String
  | .ethereum => "Ethereum"
  | .near => "NEAR"
  | .tendermint => "Tendermint / Cosmos"

/-- The kinds that select a family. -/
def aliases : Family → List String
  | .ethereum => ["ethereum", "ethereum/contract"]
  | .near => ["near"]
  | .tendermint => ["tendermint/data"]

/-- The aliases kept for old manifests. -/
def deprecatedAliases : Family → List String
  | .ethereum => ["ethereum/contract"]
  | .near | .tendermint => []

/-- The networks a data source of the family may name. -/
def networks : Family → List String
  | .ethereum =>
    ["mainnet", "kovan", "rinkeby", "ropsten", "goerli", "sepolia", "poa-core", "poa-sokol",
     "xdai", "gnosis", "matic", "mumbai", "fantom", "fantom-testnet", "bsc", "chapel", "clover",
     "avalanche", "fuji", "celo", "celo-alfajores", "fuse", "moonbeam", "moonriver", "mbase",
     "arbitrum-one", "arbitrum-goerli", "optimism", "optimism-goerli", "aurora",
     "aurora-testnet", "base", "zksync-era"]
  | .near => ["near-mainnet", "near-testnet"]
  | .tendermint => ["cosmoshub-4", "theta-testnet-001", "osmosis-1", "juno-1"]

/-- Data sources of the family refer to contract interfaces. -/
def supportsAbis : Family → Bool
  | .ethereum => true
  | .near | .tendermint => false

/-- Mappings of the family can handle events. -/
def supportsEvents : Family → Bool
  | .ethereum | .tendermint => true
  | .near => false

/-- The mapping keys for handlers that a data source of the family may have. -/
def handlers : Family → List String
  | .ethereum => ["blockHandlers", "callHandlers", "eventHandlers"]
  | .near => ["blockHandlers", "receiptHandlers"]
  | .tendermint => ["blockHandlers", "eventHandlers", "transactionHandlers"]

@[simp] theorem ofName?_name (f : Family) : ofName? f.name = some f := by
  cases f <;> rfl

end Family

/-- The identity of a project: the family its kind resolves to, if any, and the kind. -/
structure Protocol where
  family? : Option Family
  requested : String
  deriving DecidableEq, Repr

namespace Protocol

/-- The identity of a kind. -/
def resolve (kind : String) : Protocol :=
  ⟨Family.all.find? fun f => f.aliases.contains kind, kind⟩

/-- The identity of a family known already. -/
def ofFamily (f : Family) : Protocol := ⟨some f, f.name⟩

/-- The identity of the first of some kinds; one without a family when there is none. -/
def ofKinds : List String → Protocol
  | kind :: _ => resolve kind
  | [] => ⟨none, ""⟩

def isResolved (p : Protocol) : Bool := p.family?.isSome

/-- A question about the family; the answer is no when there is none. -/
def holds (p : Protocol) (question : Family → Bool) : Bool := p.family?.any question

def isValidKind (p : Protocol) (kind : String) : Bool := p.holds (·.aliases.contains kind)

def isDeprecatedKind (p : Protocol) (kind : String) : Bool :=
  p.holds (·.deprecatedAliases.contains kind)

def isValidNetwork (p : Protocol) (network : String) : Bool := p.holds (·.networks.contains network)

def supportsAbis (p : Protocol) : Bool := p.holds Family.supportsAbis

def supportsEvents (p : Protocol) : Bool := p.holds Family.supportsEvents

/-- The identity as messages name it. -/
def label (p : Protocol) : String :=
  match p.family? with
  | some f => f.name
  | none => s!"unknown ({p.requested})"

/-- No kind is an alias of two families. -/
theorem eq_of_mem_aliases {f g : Family} {kind : String} (hf : kind ∈ f.aliases)
    (hg : kind ∈ g.aliases) : f = g := by
  cases f <;> cases g <;> simp_all [Family.aliases]

/-- A kind resolves to the family it is an alias of. -/
theorem resolve_family_iff (kind : String) (f : Family) :
    (resolve kind).family? = some f ↔ kind ∈ f.aliases := by
  constructor
  · intro h
    simpa using List.find?_some h
  · intro h
    cases hfind : (resolve kind).family? with
    | none =>
        have := List.find?_eq_none.mp hfind f (by cases f <;> decide)
        simp_all
    | some g =>
        have hg : kind ∈ g.aliases := by simpa using List.find?_some hfind
        rw [eq_of_mem_aliases h hg]

end Protocol

end Subgraph

import Subgraph.Error
import Subgraph.Protocol

/-!
# Capability — what a family may not provide

Some services exist for some families only.  A slot that a family does not fill is `unsupported`,
which means that the service does not apply to it.
-/

namespace Subgraph

/-- A service that a family may provide. -/
inductive Capability (α : Type) where
  | present (value : α)
  | unsupported
  deriving DecidableEq, Repr

namespace Capability

variable {α β : Type}

def isPresent : Capability α → Bool
  | .present _ => true
  | .unsupported => false

def present? : Capability α → Option α
  | .present value => some value
  | .unsupported => none

def map (f : α → β) : Capability α → Capability β
  | .present value => .present (f value)
  | .unsupported => .unsupported

/-- The service, for a caller that cannot go on without it. -/
def require (family : Family) (service : String) : Capability α → Outcome α
  | .present value => .ok value
  | .unsupported => .error (.unsupportedCapability family.name service)

end Capability

/-- The family of this name, where one is needed. -/
def Family.parse (text : String) : Outcome Family :=
  match Family.ofName? text with
  | some f => .ok f
  | none => .error (.unresolvedProtocol text)

namespace Protocol

/-- The family of an identity that must have one. -/
def require (p : Protocol) : Outcome Family :=
  match p.family? with
  | some f => .ok f
  | none => .error (.unresolvedProtocol p.requested)

/-- The family whose services an identity asks for. -/
def vended (p : Protocol) : Outcome Family :=
  match p.family? with
  | some f => .ok f
  | none => .error (.unsupportedProtocol p.requested)

/-- The name in prose; an identity without a family has none. -/
def displayName (p : Protocol) : Outcome String :=
  match p.family? with
  | some f => .ok f.displayName
  | none => .error (.config (.noDisplayName p.requested))

end Protocol

end Subgraph

/-!
# Owner — what an interface file belongs to

A manifest entry that lists interface files is a data source or a template.  Its name decides
where the bindings go, and its label names it in messages.
-/

namespace Subgraph

/-- The manifest entry an interface file belongs to. -/
inductive Owner where
  | dataSource (name : String)
  | template (name : String)
  deriving DecidableEq, Repr

def Owner.name : Owner → String
  | .dataSource name | .template name => name

def Owner.isTemplate : Owner → Bool
  | .dataSource _ => false
  | .template _ => true

/-- The owner as messages name it. -/
def Owner.label : Owner → String
  | .dataSource name => s!"data source '{name}'"
  | .template name => s!"template '{name}'"

end Subgraph

import Subgraph.Capability
import Subgraph.Text.Identifier
import Subgraph.Generated.Class
import Subgraph.Generated.Module

/-!
# Template — classes of templates

A template stands for data sources that are made while a subgraph runs.  Its class has two functions
that make one at an address, the second with a context.  A family says of which type addresses are,
and how they are passed on; one without such classes says nothing.
-/

namespace Subgraph

open Generated

/-- What the class of a template depends on. -/
structure TemplateStyle where
  /-- What the class needs imported. -/
  imports : List String
  /-- The type of an address. -/
  addressType : String
  /-- An address as it is passed on. -/
  passed : Expr

namespace TemplateStyle

/-- A function that makes a data source, with some more parameters. -/
def makerFunction (style : TemplateStyle) (function template : String)
    (others : List Parameter) : Member :=
  .function function (⟨"address", style.addressType⟩ :: others) "void"
    [.perform ((Expr.word "DataSourceTemplate").send function
      (.literal template :: .list [style.passed] :: others.map fun p => .word p.name))]

/-- The class name of a template. -/
def className (template : String) : String :=
  Text.identifier (Text.pascalCase template) "Template"

/-- The class of a template. -/
def templateClass (style : TemplateStyle) (template : String) : ClassDecl where
  name := className template
  base? := some "DataSourceTemplate"
  members :=
    [style.makerFunction "create" template [],
      style.makerFunction "createWithContext" template [⟨"context", "DataSourceContext"⟩]]

/-- The import lines of the class of a template. -/
def importLines (style : TemplateStyle) : List String :=
  [importLine style.imports bindingLibrary]

end TemplateStyle

/-- How the classes of a family's templates are written. -/
def Family.templateStyle : Family → Capability TemplateStyle
  | .ethereum => .present {
      imports := ["Address", "DataSourceTemplate", "DataSourceContext"]
      addressType := "Address"
      passed := (Expr.word "address").send "toHex" [] }
  | .tendermint => .present {
      imports := ["DataSourceTemplate", "DataSourceContext"]
      addressType := "string"
      passed := .word "address" }
  | .near => .unsupported

/-- How the classes of a family's templates are written, where they are needed. -/
def Family.requireTemplateStyle (f : Family) : Outcome TemplateStyle :=
  f.templateStyle.require f "template code generation"

end Subgraph

import Subgraph.Text.Quoted

/-!
# Generated — expressions

The expressions that occur in generated bindings.  `Expr.text` is the only place where an expression
becomes text: names stand in it as they are, values from manifests and interface files only as
literals.
-/

namespace Subgraph.Generated

/-- An expression of the generated source. -/
inductive Expr where
  /-- A name, `this` or `super`. -/
  | word (name : String)
  | literal (value : String)
  | member (object : Expr) (name : String)
  | element (object : Expr) (index : Nat)
  | call (function : Expr) (arguments : List Expr)
  | make (type : String) (arguments : List Expr)
  | list (items : List Expr)
  | equals (left right : Expr)
  deriving Repr, Inhabited

namespace Expr

mutual

/-- An expression as text. -/
def text : Expr → String
  | .word name => name
  | .literal value => Text.quote value
  | .member object name => object.text ++ "." ++ name
  | .element object index => object.text ++ "[" ++ toString index ++ "]"
  | .call function arguments => function.text ++ "(" ++ textList arguments ++ ")"
  | .make type arguments => "new " ++ type ++ "(" ++ textList arguments ++ ")"
  | .list items => "[" ++ textList items ++ "]"
  | .equals left right => left.text ++ " == " ++ right.text

/-- Expressions as text, with a comma after each but the last. -/
def textList : List Expr → String
  | [] => ""
  | [item] => item.text
  | item :: next :: items => item.text ++ ", " ++ textList (next :: items)

end

/-- A call of a member function. -/
def send (object : Expr) (name : String) (arguments : List Expr) : Expr :=
  .call (.member object name) arguments

end Expr

end Subgraph.Generated

import Subgraph.Generated.Expr

/-!
# Generated — classes

A class of the generated bindings: its members, and the statements in their bodies.
`ClassDecl.lines` writes a class as lines without indentation, which the layout adds.  Members are
set apart by a blank line.

What a class declares is read off its structure: `Member.declared?` is the name of a member,
`Member.parameters` and `Member.locals` are the names that stand in its body.
-/

namespace Subgraph.Generated

/-- A parameter of a function. -/
structure Parameter where
  name : String
  type : String
  deriving DecidableEq, Repr

def Parameter.text (p : Parameter) : String := p.name ++ ": " ++ p.type

/-- A statement. -/
inductive Statement where
  /-- A local variable and its value. -/
  | declare (name : String) (value : Expr)
  /-- A local variable for the result of a call whose last argument is a list, one item a line. -/
  | declareCall (name : String) (function : Expr) (arguments items : List Expr)
  | assign (target value : Expr)
  | perform (action : Expr)
  | give (value : Expr)
  /-- The result of the function when a condition holds. -/
  | giveIf (condition value : Expr)
  | gap
  deriving Repr, Inhabited

namespace Statement

/-- Lines with a comma after each but the last. -/
def itemLines : List Expr → List String
  | [] => []
  | [item] => [item.text]
  | item :: next :: items => (item.text ++ ",") :: itemLines (next :: items)

def lines : Statement → List String
  | .declare name value => ["let " ++ name ++ " = " ++ value.text ++ ";"]
  | .declareCall name function arguments items =>
    ("let " ++ name ++ " = " ++ function.text ++ "(" ++ Expr.textList arguments ++ ", [")
      :: (itemLines items ++ ["]);"])
  | .assign target value => [target.text ++ " = " ++ value.text ++ ";"]
  | .perform action => [action.text ++ ";"]
  | .give value => ["return " ++ value.text ++ ";"]
  | .giveIf condition value =>
    ["if (" ++ condition.text ++ ") \x7b", "return " ++ value.text ++ ";", "\x7d"]
  | .gap => [""]

/-- The local variable that a statement declares. -/
def local? : Statement → Option String
  | .declare name _ | .declareCall name _ _ _ => some name
  | _ => none

end Statement

/-- A member of a class. -/
inductive Member where
  /-- A value that belongs to the class. -/
  | constant (name type : String) (value : Expr)
  | field (name type : String)
  /-- What makes a new object. -/
  | maker (parameters : List Parameter) (body : List Statement)
  | getter (name type : String) (body : List Statement)
  | method (name : String) (parameters : List Parameter) (type : String) (body : List Statement)
  /-- A method of the class. -/
  | function (name : String) (parameters : List Parameter) (type : String) (body : List Statement)
  deriving Repr, Inhabited

namespace Member

/-- Parameters between parentheses. -/
def parameterText (parameters : List Parameter) : String :=
  "(" ++ String.intercalate ", " (parameters.map Parameter.text) ++ ")"

/-- A heading with a body. -/
def block (heading : String) (body : List Statement) : List String :=
  (heading ++ " \x7b") :: (body.flatMap Statement.lines ++ ["\x7d"])

def lines : Member → List String
  | .constant name type value =>
    ["static readonly " ++ name ++ ": " ++ type ++ " = " ++ value.text ++ ";"]
  | .field name type => [name ++ ": " ++ type ++ ";"]
  | .maker parameters body => block ("constructor" ++ parameterText parameters) body
  | .getter name type body => block ("get " ++ name ++ "(): " ++ type) body
  | .method name parameters type body =>
    block (name ++ parameterText parameters ++ ": " ++ type) body
  | .function name parameters type body =>
    block ("static " ++ name ++ parameterText parameters ++ ": " ++ type) body

/-- The name under which objects of the class have the member; members of the class itself have
none. -/
def declared? : Member → Option String
  | .field name _ | .getter name _ _ | .method name _ _ _ => some name
  | .maker _ _ => some "constructor"
  | .constant _ _ _ | .function _ _ _ _ => none

/-- The parameters of a member. -/
def parameters : Member → List Parameter
  | .maker parameters _ | .method _ parameters _ _ | .function _ parameters _ _ => parameters
  | .constant _ _ _ | .field _ _ | .getter _ _ _ => []

def body : Member → List Statement
  | .maker _ body | .getter _ _ body | .method _ _ _ body | .function _ _ _ body => body
  | .constant _ _ _ | .field _ _ => []

/-- The local variables of a member's body. -/
def locals (m : Member) : List String := m.body.filterMap Statement.local?

end Member

/-- A class. -/
structure ClassDecl where
  name : String
  /-- The class that it extends. -/
  base? : Option String
  members : List Member
  deriving Repr, Inhabited

namespace ClassDecl

/-- Groups of lines with a blank line between two of them. -/
def spaced : List (List String) → List String
  | [] => []
  | [group] => group
  | group :: next :: groups => group ++ "" :: spaced (next :: groups)

def heading (c : ClassDecl) : String :=
  match c.base? with
  | none => "export class " ++ c.name ++ " \x7b"
  | some base => "export class " ++ c.name ++ " extends " ++ base ++ " \x7b"

def lines (c : ClassDecl) : List String :=
  c.heading :: (spaced (c.members.map Member.lines) ++ ["\x7d"])

/-- The getters of a class. -/
def getters (c : ClassDecl) : List Member :=
  c.members.filter fun
    | .getter _ _ _ => true
    | _ => false

end ClassDecl

/-- Classes that are written together, as the text of one declaration. -/
def declarationText (classes : List ClassDecl) : String :=
  String.intercalate "\n" (ClassDecl.spaced (classes.map ClassDecl.lines))

end Subgraph.Generated

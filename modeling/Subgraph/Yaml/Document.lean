import Subgraph.Yaml.Tree
import Subgraph.Yaml.Tokens

/-!
# Yaml — documents

A document is a tree in which each alias knows the number of its anchor, and a table from the
numbers to the nodes that carry the anchors.  An anchor has as its number how many names of anchors
are known before it.  A name that is given again takes a new number, which the next new name takes
too; of the nodes with one number the last in the text is meant.

`Document.parse?` reads a text.
-/

namespace Subgraph.Yaml

/-- A node of a document. -/
inductive Node where
  /-- The node that carries an anchor with this number. -/
  | alias (anchor : Nat)
  | scalar (tag? : Option TagText) (style : ScalarStyle) (text : String)
  | sequence (tag? : Option TagText) (items : List Node)
  | mapping (tag? : Option TagText) (fields : List (Node × Node))
  deriving Repr, Inhabited

/-- The names of anchors that are known, each with the number it took last. -/
abbrev AnchorNames := List (String × Nat)

namespace AnchorNames

/-- The names with one more, or with a new number for a known one. -/
def insert (names : AnchorNames) (name : String) (number : Nat) : AnchorNames :=
  if (names.lookup name).isSome then
    names.map fun entry => if entry.1 = name then (name, number) else entry
  else (name, number) :: names

/-- The number of an anchor, if there is one, and the names known behind it. -/
def enter (names : AnchorNames) : Option String → Option Nat × AnchorNames
  | none => (none, names)
  | some name => (some names.length, names.insert name names.length)

end AnchorNames

/-- A node, the names known behind it, and the anchors in it with their nodes, in the order of the
text. -/
structure Numbered (α : Type) where
  value : α
  names : AnchorNames
  anchors : List (Nat × Node)

namespace Tree

/-- The table entry of a node that carries an anchor. -/
def anchorEntry (number : Option Nat) (node : Node) : List (Nat × Node) :=
  number.toList.map fun n => (n, node)

mutual

/-- A tree with numbered anchors, given the names known before it; an alias of an unknown name is an
error. -/
def number? (names : AnchorNames) : Tree → Option (Numbered Node)
  | .alias name => (names.lookup name).map fun n => ⟨.alias n, names, []⟩
  | .scalar p style text =>
    let (n, names) := names.enter p.anchor?
    let node := Node.scalar p.tag? style text
    some ⟨node, names, anchorEntry n node⟩
  | .sequence p items =>
    let (n, names) := names.enter p.anchor?
    (numberItems? names items).map fun r =>
      let node := Node.sequence p.tag? r.value
      ⟨node, r.names, anchorEntry n node ++ r.anchors⟩
  | .mapping p fields =>
    let (n, names) := names.enter p.anchor?
    (numberFields? names fields).map fun r =>
      let node := Node.mapping p.tag? r.value
      ⟨node, r.names, anchorEntry n node ++ r.anchors⟩

def numberItems? (names : AnchorNames) : List Tree → Option (Numbered (List Node))
  | [] => some ⟨[], names, []⟩
  | item :: items => do
    let first ← number? names item
    let others ← numberItems? first.names items
    return ⟨first.value :: others.value, others.names, first.anchors ++ others.anchors⟩

def numberFields? (names : AnchorNames) :
    List (Tree × Tree) → Option (Numbered (List (Node × Node)))
  | [] => some ⟨[], names, []⟩
  | (key, value) :: fields => do
    let key ← number? names key
    let value ← number? key.names value
    let others ← numberFields? value.names fields
    return ⟨(key.value, value.value) :: others.value, others.names,
      key.anchors ++ value.anchors ++ others.anchors⟩

end

end Tree

namespace Node

mutual

/-- The size of a node: one for a scalar or an alias, and two for what holds other nodes. -/
def size : Node → Nat
  | .alias _ | .scalar _ _ _ => 1
  | .sequence _ items => 2 + sizeOfItems items
  | .mapping _ fields => 2 + sizeOfFields fields

def sizeOfItems : List Node → Nat
  | [] => 0
  | item :: items => item.size + sizeOfItems items

def sizeOfFields : List (Node × Node) → Nat
  | [] => 0
  | (key, value) :: fields => key.size + value.size + sizeOfFields fields

end

end Node

/-- A document; that of a text without content has no root. -/
structure Document where
  root? : Option Node
  anchors : List (Nat × Node)
  deriving Repr, Inhabited

namespace Document

/-- The node that an alias stands for. -/
def target? (d : Document) (anchor : Nat) : Option Node := d.anchors.reverse.lookup anchor

/-- The only document of a text. -/
def parse? (text : String) : Option Document := do
  let tokens ← tokens? (← sourceText text.toList)
  match ← Tree.ofTokens? tokens with
  | none => return ⟨none, []⟩
  | some tree =>
    let r ← tree.number? []
    return ⟨some r.value, r.anchors⟩

end Document

end Subgraph.Yaml

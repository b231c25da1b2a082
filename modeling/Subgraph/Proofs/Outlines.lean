import Subgraph.Yaml.Document

/-!
# Outlines — documents in block layout

Documents may be written in many ways.  An `Outline` is a document that is written in the plainest
one: a field on each line, each level two columns deeper than the one around it, and words, with
quotes around them or without.  An outline has

* a text (`Outline.text`),
* the tokens of that text (`Outline.tokens`),
* the node that it means (`Outline.node`), and the tree of that node (`Outline.tree`).

`Outline.IsWell` says which outlines can be written: lists that are written on several lines are
not empty, and words and keys have no characters that mean something to a reader of tokens.
-/

namespace Subgraph.Yaml

/-- A document in block layout. -/
inductive Outline where
  /-- A word, in double quotes or as it is. -/
  | word (isQuoted : Bool) (text : String)
  /-- A list without items, in brackets. -/
  | nothing
  /-- A mapping, with a field on each line. -/
  | mapping (fields : List (String × Outline))
  /-- A list, with a dash before each item. -/
  | list (items : List Outline)
  deriving Inhabited

namespace Outline

/-! ### The text -/

/-- So many spaces. -/
def indentation (column : Nat) : List Char := List.replicate column ' '

/-- What is written behind the colon of a key on its own line. -/
def isInline : Outline → Bool
  | .word _ _ | .nothing => true
  | .mapping _ | .list _ => false

/-- What stands between the colon of a key and its value, which lies at this column if it takes
lines of its own. -/
def gap (column : Nat) (value : Outline) : List Char :=
  if value.isInline then [' '] else '\n' :: indentation column

/-- A word as it is written. -/
def wordChars (isQuoted : Bool) (text : String) : List Char :=
  if isQuoted then '"' :: text.toList ++ ['"'] else text.toList

mutual

/-- The characters of an outline whose first line is indented already. -/
def chars (column : Nat) : Outline → List Char
  | .word isQuoted text => wordChars isQuoted text ++ ['\n']
  | .nothing => ['[', ']', '\n']
  | .mapping fields => fieldsChars column fields
  | .list items => itemsChars column items

/-- The characters of some fields, the first of them at its column already. -/
def fieldsChars (column : Nat) : List (String × Outline) → List Char
  | [] => []
  | (key, value) :: others =>
    key.toList ++ ':' :: gap (column + 2) value ++ chars (column + 2) value
      ++ (if others.isEmpty then [] else indentation column) ++ fieldsChars column others

/-- The characters of some items, the first of them at its column already. -/
def itemsChars (column : Nat) : List Outline → List Char
  | [] => []
  | item :: others =>
    '-' :: ' ' :: chars (column + 2) item
      ++ (if others.isEmpty then [] else indentation column) ++ itemsChars column others

end

/-- The text of an outline. -/
def text (o : Outline) : String := String.ofList (o.chars 0)

/-! ### The tokens -/

/-- The style of a word. -/
def style (isQuoted : Bool) : ScalarStyle := if isQuoted then .quoted else .plain

mutual

/-- The tokens of an outline. -/
def tokens : Outline → List Token
  | .word isQuoted text => [.scalar (style isQuoted) text]
  | .nothing => [.flowSequence, .flowSequenceEnd]
  | .mapping fields => .blockMapping :: fieldsTokens fields ++ [.blockEnd]
  | .list items => .blockSequence :: itemsTokens items ++ [.blockEnd]

def fieldsTokens : List (String × Outline) → List Token
  | [] => []
  | (key, value) :: others =>
    .key :: .scalar .plain key :: .value :: tokens value ++ fieldsTokens others

def itemsTokens : List Outline → List Token
  | [] => []
  | item :: others => .blockEntry :: tokens item ++ itemsTokens others

end

/-! ### The meaning -/

mutual

/-- The tree of an outline. -/
def tree : Outline → Tree
  | .word isQuoted text => .scalar {} (style isQuoted) text
  | .nothing => .sequence {} []
  | .mapping fields => .mapping {} (fieldsTrees fields)
  | .list items => .sequence {} (itemsTrees items)

def fieldsTrees : List (String × Outline) → List (Tree × Tree)
  | [] => []
  | (key, value) :: others => (.scalar {} .plain key, tree value) :: fieldsTrees others

def itemsTrees : List Outline → List Tree
  | [] => []
  | item :: others => tree item :: itemsTrees others

end

mutual

/-- The node of an outline. -/
def node : Outline → Node
  | .word isQuoted text => .scalar none (style isQuoted) text
  | .nothing => .sequence none []
  | .mapping fields => .mapping none (fieldsNodes fields)
  | .list items => .sequence none (itemsNodes items)

def fieldsNodes : List (String × Outline) → List (Node × Node)
  | [] => []
  | (key, value) :: others => (.scalar none .plain key, node value) :: fieldsNodes others

def itemsNodes : List Outline → List Node
  | [] => []
  | item :: others => node item :: itemsNodes others

end

/-! ### Outlines that can be written -/

/-- A character of a word. -/
def isWordChar (c : Char) : Bool := c.isAlphanum || c == '.' || c == '/' || c == '-' || c == '_'

/-- A text can be written as a word. -/
structure IsWord (text : String) : Prop where
  some : text ≠ ""
  chars : ∀ c ∈ text.toList, isWordChar c = true
  /-- A dash at the start might be that of an item. -/
  head : ∀ c ∈ text.toList.head?, c ≠ '-'

/-- A text can be written as a key. -/
structure IsKey (text : String) : Prop where
  some : text ≠ ""
  chars : ∀ c ∈ text.toList, c.isAlphanum = true
  /-- Further on the colon of a key is not looked for. -/
  length : text.length ≤ 1024

mutual

/-- An outline can be written. -/
def IsWell : Outline → Prop
  | .word _ text => IsWord text
  | .nothing => True
  | .mapping fields => fields ≠ [] ∧ AreWellFields fields
  | .list items => items ≠ [] ∧ AreWellItems items

def AreWellFields : List (String × Outline) → Prop
  | [] => True
  | (key, value) :: others => IsKey key ∧ IsWell value ∧ AreWellFields others

def AreWellItems : List Outline → Prop
  | [] => True
  | item :: others => IsWell item ∧ AreWellItems others

end

theorem isWord_iff {text : String} : IsWord text ↔
    text ≠ "" ∧ text.toList.all isWordChar = true ∧ text.toList.head? ≠ some '-' := by
  rw [List.all_eq_true]
  exact ⟨fun h => ⟨h.some, h.chars, fun first => h.head '-' first rfl⟩,
    fun h => ⟨h.1, h.2.1, fun c hc => fun e => h.2.2 (e ▸ hc)⟩⟩

instance (text : String) : Decidable (IsWord text) := decidable_of_iff _ isWord_iff.symm

theorem isKey_iff {text : String} : IsKey text ↔
    text ≠ "" ∧ text.toList.all Char.isAlphanum = true ∧ text.length ≤ 1024 := by
  rw [List.all_eq_true]
  exact ⟨fun h => ⟨h.some, h.chars, h.length⟩, fun h => ⟨h.1, h.2.1, h.2.2⟩⟩

instance (text : String) : Decidable (IsKey text) := decidable_of_iff _ isKey_iff.symm

theorem areWellFields_iff {fields : List (String × Outline)} :
    AreWellFields fields ↔ ∀ f ∈ fields, IsKey f.1 ∧ f.2.IsWell := by
  induction fields with
  | nil => exact ⟨nofun, fun _ => trivial⟩
  | cons field others ih => rw [AreWellFields, ih, List.forall_mem_cons, and_assoc]

end Outline

end Subgraph.Yaml

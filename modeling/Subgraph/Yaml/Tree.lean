import Subgraph.Yaml.Token

/-!
# Yaml — trees

The tokens of a document make a tree of scalars, sequences and mappings, in which aliases stand for
nodes that are found elsewhere by the name of an anchor.  `Tree.ofTokens?` reads the only document
of a text; a text without one has no tree.

Each reader takes the tokens from its place on and returns the rest.  `fuel` bounds how often the
readers call each other, which is at most three times for each token.
-/

namespace Subgraph.Yaml

/-- What may stand before a node. -/
structure Properties where
  anchor? : Option String := none
  tag? : Option TagText := none
  deriving DecidableEq, Repr, Inhabited

/-- A node as it is written. -/
inductive Tree where
  | alias (name : String)
  | scalar (properties : Properties) (style : ScalarStyle) (text : String)
  | sequence (properties : Properties) (items : List Tree)
  | mapping (properties : Properties) (fields : List (Tree × Tree))
  deriving Repr, Inhabited

namespace Tree

/-- What stands for a node that is not written. -/
def empty : Tree := .scalar {} .plain ""

/-- The beginnings of tags that a document knows by their handles. -/
abbrev Handles := List (String × TagText)

/-- The handles that every document knows, unless it gives them another meaning. -/
def commonHandles : Handles := [("!", .ofAscii "!"), ("!!", .ofAscii "tag:yaml.org,2002:")]

/-- A whole tag; without a handle it is written in full. -/
def wholeTag? (handles : Handles) (handle : String) (rest : TagText) : Option TagText :=
  if handle = "" then some rest else (handles.lookup handle).map (· ++ rest)

/-- What stands before a node: an anchor and a tag, in either order. -/
def readProperties (handles : Handles) : List Token → Option (Properties × List Token)
  | .anchor name :: .tag handle rest :: tokens => do
    return (⟨some name, some (← wholeTag? handles handle rest)⟩, tokens)
  | .tag handle rest :: .anchor name :: tokens => do
    return (⟨some name, some (← wholeTag? handles handle rest)⟩, tokens)
  | .anchor name :: tokens => some (⟨some name, none⟩, tokens)
  | .tag handle rest :: tokens => do
    return (⟨none, some (← wholeTag? handles handle rest)⟩, tokens)
  | tokens => some ({}, tokens)

/-- Where a node stands. -/
inductive Place where
  | flow
  | block
  /-- In a field of a block mapping, where the entries of a sequence need no deeper indentation. -/
  | field
  deriving DecidableEq, Repr

/-- The next token is one of these. -/
def begins (tokens : List Token) (these : List Token) : Bool :=
  match tokens with
  | [] => false
  | t :: _ => these.contains t

mutual

/-- A node. -/
def readNode (handles : Handles) : Nat → Place → List Token → Option (Tree × List Token)
  | 0, _, _ => none
  | fuel + 1, place, tokens =>
    match readProperties handles tokens with
    | none => none
    | some (p, rest) =>
      match place, rest with
      | _, .alias name :: rest' => if p = {} then some (.alias name, rest') else plainEmpty p rest
      | .field, .blockEntry :: _ =>
        (readEntries handles fuel rest).map fun (items, rest) => (.sequence p items, rest)
      | _, .scalar style text :: rest => some (.scalar p style text, rest)
      | _, .flowSequence :: rest =>
        (readFlowItems handles fuel true rest).map fun (items, rest) => (.sequence p items, rest)
      | _, .flowMapping :: rest =>
        (readFlowFields handles fuel true rest).map fun (fields, rest) => (.mapping p fields, rest)
      | .flow, _ => plainEmpty p rest
      | _, .blockSequence :: rest =>
        (readItems handles fuel rest).map fun (items, rest) => (.sequence p items, rest)
      | _, .blockMapping :: rest =>
        (readFields handles fuel rest).map fun (fields, rest) => (.mapping p fields, rest)
      | _, _ => plainEmpty p rest

/-- A node, or an empty one before certain tokens. -/
def readNodeUnless (handles : Handles) :
    Nat → Place → List Token → List Token → Option (Tree × List Token)
  | 0, _, _, _ => none
  | fuel + 1, place, ends, tokens =>
    if begins tokens ends then some (empty, tokens) else readNode handles fuel place tokens

/-- The items of a block sequence up to its end. -/
def readItems (handles : Handles) : Nat → List Token → Option (List Tree × List Token)
  | 0, _ => none
  | fuel + 1, .blockEntry :: rest => do
    let (item, rest) ← readNodeUnless handles fuel .block [.blockEntry, .blockEnd] rest
    let (items, rest) ← readItems handles fuel rest
    return (item :: items, rest)
  | _ + 1, .blockEnd :: rest => some ([], rest)
  | _ + 1, _ => none

/-- The entries of a sequence that is no block of its own. -/
def readEntries (handles : Handles) : Nat → List Token → Option (List Tree × List Token)
  | 0, _ => none
  | fuel + 1, .blockEntry :: rest => do
    let ends := [Token.blockEntry, .key, .value, .blockEnd]
    let (item, rest) ← readNodeUnless handles fuel .block ends rest
    let (items, rest) ← readEntries handles fuel rest
    return (item :: items, rest)
  | _ + 1, tokens => some ([], tokens)

/-- The fields of a block mapping up to its end. -/
def readFields (handles : Handles) : Nat → List Token → Option (List (Tree × Tree) × List Token)
  | 0, _ => none
  | fuel + 1, .key :: rest => do
    let ends := [Token.key, .value, .blockEnd]
    let (key, rest) ← readNodeUnless handles fuel .field ends rest
    let (value, rest) ← readValue handles fuel .field ends rest
    let (fields, rest) ← readFields handles fuel rest
    return ((key, value) :: fields, rest)
  | _ + 1, .blockEnd :: rest => some ([], rest)
  | _ + 1, _ => none

/-- The value behind a key; an empty one when its mark is missing. -/
def readValue (handles : Handles) :
    Nat → Place → List Token → List Token → Option (Tree × List Token)
  | 0, _, _, _ => none
  | fuel + 1, place, ends, .value :: rest => readNodeUnless handles fuel place ends rest
  | _ + 1, _, _, tokens => some (empty, tokens)

/-- The items of a sequence in brackets up to the closing one; `first` says that none came before.
-/
def readFlowItems (handles : Handles) :
    Nat → (first : Bool) → List Token → Option (List Tree × List Token)
  | 0, _, _ => none
  | _ + 1, _, .flowSequenceEnd :: rest => some ([], rest)
  | _ + 1, false, .flowEntry :: .flowSequenceEnd :: rest => some ([], rest)
  | fuel + 1, false, .flowEntry :: rest => do
    let (item, rest) ← readFlowItem handles fuel rest
    let (items, rest) ← readFlowItems handles fuel false rest
    return (item :: items, rest)
  | _ + 1, false, _ => none
  | fuel + 1, true, tokens => do
    let (item, rest) ← readFlowItem handles fuel tokens
    let (items, rest) ← readFlowItems handles fuel false rest
    return (item :: items, rest)

/-- An item of a sequence in brackets, which may be a single field.  The token behind the mark of a
key that is not written is passed over. -/
def readFlowItem (handles : Handles) : Nat → List Token → Option (Tree × List Token)
  | 0, _ => none
  | fuel + 1, .key :: rest => do
    let (key, rest) ← if begins rest [.value, .flowEntry, .flowSequenceEnd] then
        some (empty, rest.tail)
      else readNode handles fuel .flow rest
    let (value, rest) ← readValue handles fuel .flow [.flowEntry, .flowSequenceEnd] rest
    return (.mapping {} [(key, value)], rest)
  | fuel + 1, tokens => readNode handles fuel .flow tokens

/-- The fields of a mapping in brackets up to the closing one; `first` says that none came before.
-/
def readFlowFields (handles : Handles) :
    Nat → (first : Bool) → List Token → Option (List (Tree × Tree) × List Token)
  | 0, _, _ => none
  | _ + 1, _, .flowMappingEnd :: rest => some ([], rest)
  | _ + 1, false, .flowEntry :: .flowMappingEnd :: rest => some ([], rest)
  | fuel + 1, false, .flowEntry :: rest => do
    let (field, rest) ← readFlowField handles fuel rest
    let (fields, rest) ← readFlowFields handles fuel false rest
    return (field :: fields, rest)
  | _ + 1, false, _ => none
  | fuel + 1, true, tokens => do
    let (field, rest) ← readFlowField handles fuel tokens
    let (fields, rest) ← readFlowFields handles fuel false rest
    return (field :: fields, rest)

/-- A field of a mapping in brackets; a node without the mark of a key has an empty value. -/
def readFlowField (handles : Handles) : Nat → List Token → Option ((Tree × Tree) × List Token)
  | 0, _ => none
  | fuel + 1, .key :: rest => do
    let (key, rest) ←
      readNodeUnless handles fuel .flow [.value, .flowEntry, .flowMappingEnd] rest
    let (value, rest) ← readValue handles fuel .flow [.flowEntry, .flowMappingEnd] rest
    return ((key, value), rest)
  | fuel + 1, tokens => do
    let (key, rest) ← readNode handles fuel .flow tokens
    return ((key, empty), rest)

/-- A node of which nothing but its properties is written. -/
def plainEmpty (p : Properties) (rest : List Token) : Option (Tree × List Token) :=
  if p = {} then none else some (.scalar p .plain "", rest)

end

/-! ### Documents -/

/-- The directives before a document, and what follows them; a version and a handle may each be
given once. -/
def readDirectives (hasVersion : Bool) (handles : Handles) :
    List Token → Option (Handles × List Token)
  | .version major minor :: rest =>
    if hasVersion ∨ major ≠ 1 ∨ (minor ≠ 1 ∧ minor ≠ 2) then none
    else readDirectives true handles rest
  | .tagHandle handle beginning :: rest =>
    if (handles.lookup handle).isSome then none
    else readDirectives hasVersion (handles ++ [(handle, beginning)]) rest
  | rest => some (handles, rest)

/-- A token that stands before the content of a document, or behind it. -/
def isBetween : Token → Bool
  | .version _ _ | .tagHandle _ _ | .documentStart | .documentEnd => true
  | _ => false

/-- The node of a document, and what follows it. -/
def readDocument (fuel : Nat) (tokens : List Token) : Option (Tree × List Token) := do
  let (handles, rest) ← readDirectives false [] tokens
  let handles := handles ++ commonHandles
  match rest with
  | .documentStart :: rest =>
    if (rest.head?.map isBetween).getD true then return (empty, rest)
    else readNode handles fuel .block rest
  | _ => if rest = tokens then readNode handles fuel .block rest else none

/-- The tree of the only document among some tokens; there may be none, but not two. -/
def ofTokens? (tokens : List Token) : Option (Option Tree) := do
  if tokens = [] then return none
  let (tree, rest) ← readDocument (3 * tokens.length + 3) tokens
  guard (rest.all (· == .documentEnd))
  return some tree

end Tree

end Subgraph.Yaml

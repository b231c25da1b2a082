import Subgraph.Program

/-!
# FileTree — files in directories

A `FileTree` is a state of a host that keeps files and directories, with a place in it from which
relative paths are seen.  A path is followed component by component: `..` leads to the directory
above, and all that come before the last must be directories.  A component has at most 255 octets,
and a path less than 4096.

`FileTree.host` answers the requests of programs from such a state.
-/

namespace Subgraph

/-- What a file holds. -/
inductive FileContent where
  | text (text : String)
  /-- Something that is not text. -/
  | other
  deriving DecidableEq, Repr

/-- What may be at a place. -/
inductive FileNode where
  | dir
  | file (content : FileContent)
  deriving DecidableEq, Repr

/-- A place: the names that lead to it from the root, innermost first. -/
abbrev FilePlace := List String

/-- Files and directories.  Each place is in the list at most once. -/
structure FileTree where
  /-- The place from which relative paths are seen. -/
  base : FilePlace
  nodes : List (FilePlace × FileNode)
  deriving DecidableEq, Repr

namespace FileTree

/-- A directory and those above it. -/
def dirs : FilePlace → List (FilePlace × FileNode)
  | [] => []
  | name :: place => (name :: place, .dir) :: dirs place

/-- A tree with nothing but its base and the directories above it. -/
def empty (base : FilePlace) : FileTree := ⟨base, dirs base⟩

/-- What is at a place; the root is a directory. -/
def at? (t : FileTree) (place : FilePlace) : Option FileNode :=
  if place = [] then some .dir else t.nodes.lookup place

/-- A tree with something else at a place. -/
def set (t : FileTree) (place : FilePlace) (node : FileNode) : FileTree :=
  { t with nodes := t.nodes.filter (·.1 ≠ place) ++ [(place, node)] }

/-- A tree without what is at a place and below it. -/
def erase (t : FileTree) (place : FilePlace) : FileTree :=
  { t with nodes := t.nodes.filter fun node => !place.isSuffixOf node.1 }

/-! ### Paths -/

/-- The place is a directory, or it is said why not. -/
def enter (t : FileTree) (place : FilePlace) : Except FileFailure Unit :=
  match t.at? place with
  | some .dir => .ok ()
  | some (.file _) => .error .notDirectory
  | none => .error .notFound

/-- The greatest number of octets of a component. -/
def maxName : Nat := 255

/-- The number of octets that a path must not reach. -/
def pathLimit : Nat := 4096

/-- The place to which some components lead from a directory. -/
def follow (t : FileTree) (place : FilePlace) : List String → Except FileFailure FilePlace
  | [] => .ok place
  | name :: names => do
    t.enter place
    if name = "" ∨ name = "." then t.follow place names
    else if name = ".." then t.follow place.tail names
    else if maxName < name.utf8ByteSize then throw .nameTooLong
    else t.follow (name :: place) names

/-- The components of a path. -/
def components (path : Path) : List String := (Path.components path.text.toList).map String.ofList

/-- The place that a path leads to. -/
def locate (t : FileTree) (path : Path) : Except FileFailure FilePlace :=
  if path.hasZero then .error .zeroInName
  else if path.text = "" then .error .notFound
  else if pathLimit ≤ path.text.utf8ByteSize then .error .nameTooLong
  else t.follow (if path.isAbsolute then [] else t.base) (components path)

/-- What is at a path. -/
def node? (t : FileTree) (path : Path) : Except FileFailure FileNode := do
  match t.at? (← t.locate path) with
  | some node => return node
  | none => throw .notFound

/-! ### Requests -/

/-- The text of the file at a path. -/
def read (t : FileTree) (path : Path) : Except FileFailure String := do
  match ← t.node? path with
  | .dir => throw .isDirectory
  | .file (.text text) => return text
  | .file .other => throw .notText

def isPresent (t : FileTree) (path : Path) : Bool := (t.node? path).toBool

def isDir (t : FileTree) (path : Path) : Bool :=
  match t.node? path with
  | .ok .dir => true
  | _ => false

/-- A tree with one more directory. -/
def makeDir (t : FileTree) (path : Path) : Except FileFailure FileTree := do
  let place ← t.locate path
  t.enter place.tail
  match t.at? place with
  | some _ => throw .alreadyExists
  | none => return t.set place .dir

/-- A tree with the first of some directories, given those above it. -/
def makeDirs (t : FileTree) : List Path → Except FileFailure FileTree
  | [] => .ok t
  | path :: above =>
    let orThere := fun (t : FileTree) (r : Except FileFailure FileTree) =>
      match r with
      | .error failure => if t.isDir path then .ok t else .error failure
      | made => made
    match t.makeDir path with
    | .error .notFound => do
      let t ← t.makeDirs above
      orThere t (t.makeDir path)
    | r => orThere t r

/-- A path and the directories above it, as far as they are named; `fuel` bounds their number. -/
def ancestors : (fuel : Nat) → Path → List Path
  | 0, _ => []
  | fuel + 1, path =>
    path :: match path.directory? with
      | none => []
      | some dir => ancestors fuel dir

/-- A tree with a directory and those above it. -/
def ensureDir (t : FileTree) (path : Path) : Except FileFailure FileTree :=
  if path.text = "" then .ok t else t.makeDirs (ancestors (path.text.length + 1) path)

/-- A tree with a text in a file. -/
def write (t : FileTree) (path : Path) (text : String) : Except FileFailure FileTree := do
  let place ← t.locate path
  t.enter place.tail
  match t.at? place with
  | some .dir => throw .isDirectory
  | _ => return t.set place (.file (.text text))

/-- The host that keeps its files in a tree. -/
def host : Host FileTree where
  read := read
  isPresent := isPresent
  ensureDir := ensureDir
  write := write

/-! ### Trees as data -/

/-- A tree with something at a path, whose directories are made. -/
def put (t : FileTree) (path : Path) (node : FileNode) : FileTree :=
  match node with
  | .dir => (t.ensureDir path).toOption.getD t
  | .file _ =>
    let t := (path.directory?.bind fun dir => (t.ensureDir dir).toOption).getD t
    match t.locate path with
    | .ok place => if t.at? place = some .dir then t else t.set place node
    | .error _ => t

/-- A tree without what is at a path. -/
def remove (t : FileTree) (path : Path) : FileTree :=
  match t.locate path with
  | .ok place => t.erase place
  | .error _ => t

/-- The files below the base with their texts, by their paths from there. -/
def texts (t : FileTree) : List (String × String) :=
  t.nodes.filterMap fun (place, node) =>
    match node with
    | .file (.text text) =>
      if t.base.isSuffixOf place then
        let names := (place.take (place.length - t.base.length)).reverse
        some (String.intercalate "/" names, text)
      else none
    | _ => none

end FileTree

end Subgraph

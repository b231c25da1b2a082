import Subgraph.Text.Pieces

/-!
# Path — file paths as text

A path is the text it was given as; nothing makes it absolute or removes `.` and `..`.

* `Path.join` puts a path under another one; an absolute path replaces what it is put under.
* `Path.parent?` is the path without its last component.
* `segmentProblem?` says why a name is not a plain component: one that, joined to a directory,
  names an entry of that directory.
-/

namespace Subgraph

/-- A file path, as written. -/
structure Path where
  text : String
  deriving DecidableEq, Repr, Inhabited

namespace Path

def isAbsolute (p : Path) : Bool := p.text.toList.head? == some '/'

/-- The path has the character zero in it. -/
def hasZero (p : Path) : Bool := p.text.toList.contains '\x00'

/-- `p` under `dir`.  A separator is put between them when `dir` has text that does not end with
one. -/
def join (dir p : Path) : Path :=
  if p.isAbsolute then p
  else match dir.text.toList.getLast? with
    | none => p
    | some '/' => ⟨dir.text ++ p.text⟩
    | some _ => ⟨dir.text ++ "/" ++ p.text⟩

/-- The components of a path body: the pieces between its separators, empty ones included. -/
def components (body : List Char) : List (List Char) := Text.pieces '/' body

/-- A component that names nothing: an empty one, or `.`. -/
def isVoid (component : List Char) : Bool := component == [] || component == ['.']

/-- How a path starts: at the root, with a component `.`, or with neither.  The characters are
those of the start. -/
def start : List Char → List Char
  | '/' :: _ => ['/']
  | ['.'] => ['.']
  | '.' :: '/' :: _ => ['.']
  | _ => []

/-- The path without its last component; none for the root and for the empty path.  A component
`.` counts at the start of a path only. -/
def parent? (p : Path) : Option Path :=
  let cs := p.text.toList
  let head := start cs
  match (components (cs.drop head.length)).reverse.dropWhile isVoid with
  | [] => if head = ['.'] then some ⟨""⟩ else none
  | _ :: above =>
    let body := List.intercalate ['/'] (above.dropWhile isVoid).reverse
    some ⟨String.ofList (head ++ body)⟩

/-- The directory a path lies in, when it names one. -/
def directory? (p : Path) : Option Path := p.parent?.filter (·.text ≠ "")

instance : ToString Path := ⟨Path.text⟩

end Path

/-- Why a name is not a plain path component. -/
inductive SegmentProblem where
  | empty
  | separator
  | notPlain
  deriving DecidableEq, Repr

def SegmentProblem.message : SegmentProblem → String
  | .empty => "name is empty"
  | .separator => "name contains a path separator"
  | .notPlain => "name is not a plain file name"

/-- What keeps `name` from being a plain component: no text, a separator of either kind, or one of
the names `.` and `..`. -/
def segmentProblem? (name : String) : Option SegmentProblem :=
  let cs := name.toList
  if cs = [] then some .empty
  else if '/' ∈ cs ∨ '\\' ∈ cs then some .separator
  else if cs = ['.'] ∨ cs = ['.', '.'] then some .notPlain
  else none

/-- `name` is a plain component: it has text, no separator, and is neither `.` nor `..`. -/
def IsSegment (name : String) : Prop :=
  name ≠ "" ∧ '/' ∉ name.toList ∧ '\\' ∉ name.toList ∧ name ≠ "." ∧ name ≠ ".."

theorem segmentProblem?_eq_none_iff (name : String) :
    segmentProblem? name = none ↔ IsSegment name := by
  have key : ∀ t : String, name.toList = t.toList ↔ name = t := fun t => String.toList_inj
  have h0 : name.toList = [] ↔ name = "" := key ""
  have h1 : name.toList = ['.'] ↔ name = "." := key "."
  have h2 : name.toList = ['.', '.'] ↔ name = ".." := key ".."
  unfold segmentProblem? IsSegment
  simp only [h0, h1, h2]
  grind

end Subgraph

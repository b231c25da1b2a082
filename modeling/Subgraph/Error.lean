import Subgraph.Path
import Subgraph.Owner

/-!
# Error — why an operation failed

Every failure of the library is one `Error`.  It names a cause, and `Error.message` is its text.
An error that crosses a stage or an entry of the manifest is put into a frame; the frames change
neither its kind (`Error.kind`) nor the error underneath them (`Error.innermost`).

Where a file is not well-formed YAML or JSON, the error says so without telling the position.
-/

namespace Subgraph

/-- Why the host could not read or write a file. -/
inductive FileFailure where
  | notFound
  | isDirectory
  | notDirectory
  /-- There is a file where a directory should be made. -/
  | alreadyExists
  /-- The path or one of its components is longer than the host admits. -/
  | nameTooLong
  /-- The path has the character zero in it, which no path has. -/
  | zeroInName
  /-- The file is not UTF-8 text. -/
  | notText
  | described (text : String)
  deriving DecidableEq, Repr

def FileFailure.message : FileFailure → String
  | .notFound => "No such file or directory (os error 2)"
  | .isDirectory => "Is a directory (os error 21)"
  | .notDirectory => "Not a directory (os error 20)"
  | .alreadyExists => "File exists (os error 17)"
  | .nameTooLong => "File name too long (os error 36)"
  | .zeroInName => "file name contained an unexpected NUL byte"
  | .notText => "stream did not contain valid UTF-8"
  | .described text => text

/-- What makes a readable interface file unusable. -/
inductive AbiDefect where
  /-- Neither a list of interface items nor an object that holds one. -/
  | notAbi
  /-- Neither a list of event definitions nor an object that holds one. -/
  | notDefinitions
  /-- The event definition at this place, counted from zero, has no type. -/
  | emptyType (index : Nat)
  | described (text : String)
  deriving DecidableEq, Repr

def AbiDefect.message : AbiDefect → String
  | .notAbi => "expected an ABI array or an object with an 'abi' array"
  | .notDefinitions =>
    "expected \x7b\"events\": [...]\x7d or an array of \x7btype, attributes\x7d objects"
  | .emptyType index => s!"event #{index} has an empty type"
  | .described text => text

/-- Why an interface file could not be loaded, or no bindings made of it. -/
inductive AbiError where
  | unreadable (failure : FileFailure)
  /-- The text is not JSON of the needed shape. -/
  | malformed
  | invalid (defect : AbiDefect)
  | unsupportedType (type : String)
  deriving DecidableEq, Repr

/-- The text that stands for the details of a JSON error. -/
def jsonDetails : String := "<json>"

/-- The text that stands for the details of a YAML error. -/
def yamlDetails : String := "<yaml>"

def AbiError.message : AbiError → String
  | .unreadable failure => s!"IO error: {failure.message}"
  | .malformed => s!"invalid ABI JSON: {jsonDetails}"
  | .invalid defect => s!"invalid ABI: {defect.message}"
  | .unsupportedType type => s!"unsupported ABI type '{type}'"

/-- Why a manifest could not be read. -/
inductive ManifestDefect where
  | unreadable (path : Path) (failure : FileFailure)
  | malformed
  | described (text : String)
  deriving DecidableEq, Repr

def ManifestDefect.message : ManifestDefect → String
  | .unreadable path failure => s!"cannot read {path}: {failure.message}"
  | .malformed => yamlDetails
  | .described text => text

/-- What is wrong with the configuration, or with a name used under it. -/
inductive ConfigDefect where
  | unreadable (path : Path) (failure : FileFailure)
  | malformed
  | badExtension (extension : String)
  | noOutputDir
  /-- The bindings of an interface cannot go under this name. -/
  | badName (owner : Owner) (abi name : String) (problem : SegmentProblem)
  /-- An unresolved identity has no name in prose. -/
  | noDisplayName (requested : String)
  | described (text : String)
  deriving DecidableEq, Repr

def ConfigDefect.message : ConfigDefect → String
  | .unreadable path failure => s!"cannot read {path}: {failure.message}"
  | .malformed => yamlDetails
  | .badExtension extension =>
    s!"invalid extension '{extension}': expected a bare extension such as 'ts'"
  | .noOutputDir => "outputDir must not be empty"
  | .badName owner abi name problem =>
    s!"{owner.label}: cannot write ABI '{abi}' under '{name}': {problem.message}"
  | .noDisplayName requested => s!"no display name for unresolved protocol '{requested}'"
  | .described text => text

/-- One frame of context. -/
inductive Frame where
  | owner (owner : Owner)
  /-- A stage of the work, by the text that tells of its failure. -/
  | stage (text : String)
  deriving DecidableEq, Repr

def Frame.message : Frame → String
  | .owner o => o.label
  | .stage text => text

/-- The kinds of failure. -/
inductive ErrorKind where
  /-- A kind is no alias of a family. -/
  | resolution
  /-- A family does not provide what was asked of it. -/
  | capability
  /-- An interface file could not be loaded. -/
  | load
  /-- No bindings could be made. -/
  | generation
  /-- A directory or a file could not be written. -/
  | write
  /-- The manifest could not be read, or is not valid. -/
  | manifest
  /-- The configuration is not valid. -/
  | config
  deriving DecidableEq, Repr

/-- Why an operation failed. -/
inductive Error where
  | unresolvedProtocol (kind : String)
  | unsupportedProtocol (protocol : String)
  | unsupportedCapability (protocol capability : String)
  | abiLoad (owner name : String) (path : Path) (cause : AbiError)
  | generation (name : String) (path : Path) (cause : Error)
  | abi (cause : AbiError)
  | format (reason : String)
  | write (path : Path) (failure : FileFailure)
  | manifest (defect : ManifestDefect)
  | manifestInvalid (count : Nat)
  | config (defect : ConfigDefect)
  | context (frame : Frame) (cause : Error)
  deriving DecidableEq, Repr, Inhabited

namespace Error

/-- The text of an error. -/
def message : Error → String
  | .unresolvedProtocol kind => s!"Unresolved protocol for data source kind '{kind}'"
  | .unsupportedProtocol protocol => s!"Data sources with kind '{protocol}' are not supported yet"
  | .unsupportedCapability protocol capability =>
    s!"Protocol '{protocol}' does not support {capability}"
  | .abiLoad owner name path cause =>
    s!"Failed to load ABI '{name}' for {owner} from {path}: {cause.message}"
  | .generation name path cause =>
    s!"Failed to generate types for ABI '{name}' ({path}): {cause.message}"
  | .abi cause => cause.message
  | .format reason => s!"Failed to format generated code: {reason}"
  | .write path failure => s!"Failed to write {path}: {failure.message}"
  | .manifest defect => s!"Invalid manifest: {defect.message}"
  | .manifestInvalid count => s!"Manifest validation failed with {count} error(s)"
  | .config defect => s!"Configuration error: {defect.message}"
  | .context frame cause => frame.message ++ ": " ++ cause.message

/-- The kind of an error; frames do not change it. -/
def kind : Error → ErrorKind
  | .unresolvedProtocol _ => .resolution
  | .unsupportedProtocol _ | .unsupportedCapability _ _ => .capability
  | .abiLoad _ _ _ _ => .load
  | .generation _ _ _ | .abi _ | .format _ => .generation
  | .write _ _ => .write
  | .manifest _ | .manifestInvalid _ => .manifest
  | .config _ => .config
  | .context _ cause => cause.kind

/-- The frames around an error, outermost first. -/
def frames : Error → List Frame
  | .context frame cause => frame :: cause.frames
  | _ => []

/-- The error under all frames. -/
def innermost : Error → Error
  | .context _ cause => cause.innermost
  | e => e

/-- The texts of the errors that lie behind an error, each behind the one before it. -/
def causes : Error → List String
  | .abiLoad _ _ _ cause => cause.message :: behind cause
  | .generation _ _ cause => cause.message :: cause.causes
  | .abi cause => cause.message :: behind cause
  | .write _ failure => [failure.message]
  | .context _ cause => cause.message :: cause.causes
  | _ => []
where
  behind : AbiError → List String
    | .unreadable failure => [failure.message]
    | .malformed => [jsonDetails]
    | .invalid _ | .unsupportedType _ => []

@[simp] theorem kind_context (frame : Frame) (e : Error) : (context frame e).kind = e.kind := rfl

@[simp] theorem innermost_context (frame : Frame) (e : Error) :
    (context frame e).innermost = e.innermost := rfl

@[simp] theorem frames_context (frame : Frame) (e : Error) :
    (context frame e).frames = frame :: e.frames := rfl

/-- The error underneath is of the same kind. -/
theorem kind_innermost (e : Error) : e.innermost.kind = e.kind := by
  induction e with
  | context frame cause ih => exact ih
  | _ => rfl

end Error

/-- A value, or why there is none. -/
abbrev Outcome (α : Type) := Except Error α

/-- A result with one more frame around its error. -/
def Outcome.within {α : Type} (r : Outcome α) (frame : Frame) : Outcome α :=
  r.mapError (.context frame)

end Subgraph

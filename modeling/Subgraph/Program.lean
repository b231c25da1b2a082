import Subgraph.Error
import Subgraph.Notice

/-!
# Program — work on files

A `Program` reads files, makes directories, writes files and tells what it does; it is a value, and
says only which request comes next after each answer.  A `Host` answers the requests from a state,
and `Program.run` is the run of a program on a host: the result, the state at the end, and the
trace of all requests.

* An `Action` is a program that may fail.
* `Action.stage` runs an action as a stage: it tells of the begin and the end, and puts an error
  into the frame of the stage.
* `Program.run_bind`: a program in two parts runs one part after the other.
-/

namespace Subgraph

/-- Work that asks a host to read and write files. -/
inductive Program (α : Type) where
  | done (value : α)
  | read (path : Path) (next : Except FileFailure String → Program α)
  /-- Ask whether there is something at a path. -/
  | find (path : Path) (next : Bool → Program α)
  /-- Make a directory and those above it, where they are missing. -/
  | ensureDir (path : Path) (next : Except FileFailure Unit → Program α)
  | write (path : Path) (text : String) (next : Except FileFailure Unit → Program α)
  | tell (notice : Notice) (next : Program α)

namespace Program

variable {α β γ : Type}

/-- One program, and then one that depends on its result. -/
def bind : Program α → (α → Program β) → Program β
  | .done value, f => f value
  | .read path next, f => .read path fun answer => (next answer).bind f
  | .find path next, f => .find path fun answer => (next answer).bind f
  | .ensureDir path next, f => .ensureDir path fun answer => (next answer).bind f
  | .write path text next, f => .write path text fun answer => (next answer).bind f
  | .tell notice next, f => .tell notice (next.bind f)

instance : Monad Program where
  pure := .done
  bind := bind

theorem bind_done (p : Program α) : p.bind .done = p := by
  induction p with
  | find path next ih => exact congrArg (Program.find path) (funext ih)
  | _ => simp_all [bind]

theorem bind_assoc (p : Program α) (f : α → Program β) (g : β → Program γ) :
    (p.bind f).bind g = p.bind fun value => (f value).bind g := by
  induction p with
  | find path next ih => exact congrArg (Program.find path) (funext ih)
  | _ => simp_all [bind]

instance : LawfulMonad Program := LawfulMonad.mk' Program bind_done (fun _ _ => rfl) bind_assoc

/-! ### Requests -/

def readText (path : Path) : Program (Except FileFailure String) := .read path .done

def isPresent (path : Path) : Program Bool := .find path .done

def makeDir (path : Path) : Program (Except FileFailure Unit) := .ensureDir path .done

def writeText (path : Path) (text : String) : Program (Except FileFailure Unit) :=
  .write path text .done

def notify (notice : Notice) : Program Unit := .tell notice (.done ())

end Program

/-! ### Running -/

/-- What answers the requests of a program, from a state. -/
structure Host (σ : Type) where
  read : σ → Path → Except FileFailure String
  isPresent : σ → Path → Bool
  ensureDir : σ → Path → Except FileFailure σ
  write : σ → Path → String → Except FileFailure σ

/-- A request that a program made. -/
inductive Event where
  | read (path : Path)
  | find (path : Path)
  /-- A directory was asked for, and made or refused. -/
  | dir (path : Path) (granted : Bool)
  /-- A file was to be written, and was or was not. -/
  | file (path : Path) (text : String) (granted : Bool)
  | told (notice : Notice)
  deriving DecidableEq, Repr

namespace Event

def notice? : Event → Option Notice
  | .told notice => some notice
  | _ => none

def progress? (e : Event) : Option Progress := e.notice?.bind Notice.progress?

/-- The event is a request for output. -/
def isOutput : Event → Bool
  | .dir _ _ | .file _ _ _ => true
  | .read _ | .find _ | .told _ => false

end Event

/-- The run of a program. -/
structure Run (σ α : Type) where
  value : α
  state : σ
  trace : List Event
  deriving Repr

namespace Run

variable {σ α : Type}

/-- A run with one more request before it. -/
def after (event : Event) (r : Run σ α) : Run σ α := { r with trace := event :: r.trace }

/-- The progress that was told. -/
def progress (r : Run σ α) : List Progress := r.trace.filterMap Event.progress?

/-- What was told. -/
def notices (r : Run σ α) : List Notice := r.trace.filterMap Event.notice?

end Run

namespace Program

variable {σ α β : Type}

/-- The state after a request, and the answer to it. -/
def answered (s : σ) : Except FileFailure σ → σ × Except FileFailure Unit
  | .ok s' => (s', .ok ())
  | .error failure => (s, .error failure)

/-- The run of a program on a host. -/
def run (host : Host σ) : Program α → σ → Run σ α
  | .done value, s => ⟨value, s, []⟩
  | .read path next, s => ((next (host.read s path)).run host s).after (.read path)
  | .find path next, s => ((next (host.isPresent s path)).run host s).after (.find path)
  | .ensureDir path next, s =>
    let (s', answer) := answered s (host.ensureDir s path)
    ((next answer).run host s').after (.dir path answer.toBool)
  | .write path text next, s =>
    let (s', answer) := answered s (host.write s path text)
    ((next answer).run host s').after (.file path text answer.toBool)
  | .tell notice next, s => (next.run host s).after (.told notice)

/-- **A program in two parts runs one part after the other.** -/
theorem run_bind (host : Host σ) (p : Program α) (f : α → Program β) (s : σ) :
    (p.bind f).run host s =
      let first := p.run host s
      let second := (f first.value).run host first.state
      ⟨second.value, second.state, first.trace ++ second.trace⟩ := by
  induction p generalizing s with
  | find path next ih => simp [bind, run, Run.after, ih (host.isPresent s path)]
  | _ => simp_all [bind, run, Run.after]

end Program

/-! ### Actions -/

/-- A program that may fail. -/
abbrev Action (α : Type) := ExceptT Error Program α

namespace Action

variable {α : Type}

/-- What an action tells. -/
def notify (notice : Notice) : Action Unit := Program.notify notice

def tell (event : Progress) : Action Unit := notify (.progress event)

/-- A result known already. -/
def ofOutcome (r : Outcome α) : Action α := ExceptT.mk (pure r)

/-- An action as a stage. -/
def stage (title failure : String) (work : Action α) : Action α := ExceptT.mk do
  Program.notify (.progress (.begin title))
  match ← work.run with
  | .ok value =>
    Program.notify (.progress (.succeed title))
    return .ok value
  | .error e =>
    Program.notify (.progress (.fail failure e.message))
    return .error (.context (.stage failure) e)

/-- A file and the directory it lies in, written. -/
def writeFile (path : Path) (text : String) : Action Unit := do
  if let some dir := path.directory? then
    match ← Program.makeDir dir with
    | .ok () => pure ()
    | .error failure => throw (.write dir failure)
  match ← Program.writeText path text with
  | .ok () => pure ()
  | .error failure => throw (.write path failure)

end Action

end Subgraph

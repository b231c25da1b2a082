import Mathlib.Data.List.Forall2
import Subgraph.Build
import Subgraph.Proofs.Runs

/-!
# Loading — what a build does before it writes

A build reads and checks a manifest and loads all interface files before it makes the first
bindings.  The requests of this part are a *prelude*: none asks for output, none announces that
bindings are about to be made, and none tells of a written file.

* `runs_loadManifest`, `runs_requireValid`: the manifest is read and checked in a prelude; an error
  is then one of the manifest.
* `runs_loadAbi`: one interface is loaded, or the error says which one could not be.
* `runs_loadAll`: interfaces are loaded in order, up to the first that cannot be (`Loading`).
-/

namespace Subgraph

open Subgraph.Action

variable {σ α β : Type}

/-! ### Preludes -/

/-- The interface whose bindings an event says are about to be made. -/
def Event.announced? : Event → Option (String × Owner)
  | .told (.generating abi owner) => some (abi, owner)
  | _ => none

/-- The path of a file that progress says is written. -/
def Progress.written? : Progress → Option String
  | .step subject detail =>
    if subject = "Write types to" ∨ subject = "Write templates to" then some detail else none
  | _ => none

/-- An event that may stand before the first bindings are made. -/
structure Event.IsPrelude (e : Event) : Prop where
  quiet : e.isOutput = false
  unannounced : e.announced? = none
  unwritten : e.progress?.bind Progress.written? = none

/-- All requests of a list may stand before the first bindings are made. -/
def Prelude (t : List Event) : Prop := ∀ e ∈ t, e.IsPrelude

theorem prelude_nil : Prelude [] := fun _ h => absurd h List.not_mem_nil

theorem Prelude.cons {e : Event} {t : List Event} (he : e.IsPrelude) (ht : Prelude t) :
    Prelude (e :: t) := fun x hx => by
  rcases List.mem_cons.mp hx with rfl | hx
  · exact he
  · exact ht x hx

theorem Prelude.append {t₁ t₂ : List Event} (h₁ : Prelude t₁) (h₂ : Prelude t₂) :
    Prelude (t₁ ++ t₂) := fun x hx => (List.mem_append.mp hx).elim (h₁ x) (h₂ x)

/-- What a stage tells at its two ends keeps a prelude one. -/
theorem Prelude.stage {first last : Event} {t : List Event} (hf : first.IsPrelude)
    (ht : Prelude t) (hl : last.IsPrelude) : Prelude (first :: t ++ [last]) :=
  (Prelude.cons hf ht).append (.cons hl prelude_nil)

theorem isPrelude_read (path : Path) : (Event.read path).IsPrelude := ⟨rfl, rfl, rfl⟩

theorem isPrelude_begin (title : String) : (Event.told (.progress (.begin title))).IsPrelude :=
  ⟨rfl, rfl, rfl⟩

theorem isPrelude_succeed (title : String) : (Event.told (.progress (.succeed title))).IsPrelude :=
  ⟨rfl, rfl, rfl⟩

theorem isPrelude_fail (title e : String) : (Event.told (.progress (.fail title e))).IsPrelude :=
  ⟨rfl, rfl, rfl⟩

theorem isPrelude_warn (message : String) : (Event.told (.progress (.warn message))).IsPrelude :=
  ⟨rfl, rfl, rfl⟩

theorem isPrelude_entered (f : Family) (state : GenerationState) :
    (Event.told (.entered f state)).IsPrelude := ⟨rfl, rfl, rfl⟩

variable {host : Host σ} {s s' : σ} {t : List Event}

/-- **A stage whose work is a prelude is a prelude.**  Its outcome is that of the work, in the
frame of the stage. -/
theorem runs_stage_prelude {title failure : String} {work : Action α} {r : Outcome α}
    (h : Runs host (stage title failure work) s r s' t)
    (hw : ∀ {r₀ t₀}, Runs host work s r₀ s' t₀ → Prelude t₀) :
    Prelude t ∧ ((∃ v t₀, r = .ok v ∧ Runs host work s (.ok v) s' t₀) ∨
      ∃ e t₀, r = .error (.context (.stage failure) e) ∧ Runs host work s (.error e) s' t₀) := by
  rcases runs_stage h with ⟨v, t₀, rfl, h₀, rfl⟩ | ⟨e, t₀, rfl, h₀, rfl⟩
  · exact ⟨.stage (isPrelude_begin _) (hw h₀) (isPrelude_succeed _), .inl ⟨v, t₀, rfl, h₀⟩⟩
  · exact ⟨.stage (isPrelude_begin _) (hw h₀) (isPrelude_fail _ _), .inr ⟨e, t₀, rfl, h₀⟩⟩

/-- A list of notices is told in order. -/
theorem runs_forM_notify {f : α → Notice} {xs : List α} {r : Outcome Unit}
    (h : Runs host (xs.forM fun x => Action.notify (f x)) s r s' t) :
    r = .ok () ∧ s' = s ∧ t = xs.map fun x => .told (f x) := by
  induction xs generalizing s t with
  | nil => exact runs_pure.mp h
  | cons x xs ih =>
      rcases runs_bind.mp h with ⟨v, s₁, t₁, t₂, hx, hxs, rfl⟩ | ⟨e, -, hx⟩
      · obtain ⟨-, rfl, rfl⟩ := runs_notify.mp hx
        obtain ⟨hr, hs, rfl⟩ := ih hxs
        exact ⟨hr, hs, rfl⟩
      · cases (runs_notify.mp hx).1

/-! ### The manifest -/

/-- What comes of reading a manifest in a state: the manifest, or an error that is one of the
manifest. -/
def ManifestRead (host : Host σ) (s : σ) (path : Path) (r : Outcome Manifest) : Prop :=
  (∃ text m, host.read s path = .ok text ∧ Manifest.parse text = .ok m ∧ r = .ok m) ∨
    ∃ e, r = .error e ∧ e.kind = .manifest

theorem manifestRead_of_parse {path : Path} {text : String}
    (h : host.read s path = .ok text) : ManifestRead host s path (Manifest.parse text) := by
  rcases hp : Manifest.parse text with e | m
  · refine .inr ⟨e, rfl, ?_⟩
    unfold Manifest.parse at hp
    split at hp
    · cases hp
    · cases hp; rfl
  · exact .inl ⟨text, m, h, hp, rfl⟩

theorem runs_readManifest {path : Path} {r : Outcome Manifest}
    (h : Runs host (Build.readManifest path) s r s' t) :
    Prelude t ∧ ManifestRead host s path r := by
  rcases runs_bind.mp h with ⟨answer, s₁, t₁, t₂, hr, hm, rfl⟩ | ⟨e, -, hr⟩
  · obtain ⟨hv, rfl, rfl⟩ := runs_readText.mp hr
    cases hv
    rcases hg : host.read s₁ path with failure | text
    · -- the file is not there
      rw [hg] at hm
      obtain ⟨rfl, -, rfl⟩ := runs_throw.mp hm
      exact ⟨.cons (isPrelude_read path) prelude_nil, .inr ⟨_, rfl, rfl⟩⟩
    · rw [hg] at hm
      obtain ⟨rfl, -, rfl⟩ := runs_ofOutcome.mp hm
      exact ⟨.cons (isPrelude_read path) prelude_nil, manifestRead_of_parse hg⟩
  · cases (runs_readText.mp hr).1

/-- **Reading a manifest is a prelude**; an error is one of the manifest. -/
theorem runs_loadManifest {path : Path} {r : Outcome Manifest}
    (h : Runs host (Build.loadManifest path) s r s' t) :
    Prelude t ∧ ManifestRead host s path r := by
  obtain ⟨ht, hr⟩ := runs_stage_prelude h fun h => (runs_readManifest h).1
  refine ⟨ht, ?_⟩
  rcases hr with ⟨m, t₀, rfl, h₀⟩ | ⟨e, t₀, rfl, h₀⟩
  · exact (runs_readManifest h₀).2
  · rcases (runs_readManifest h₀).2 with ⟨_, _, _, _, he⟩ | ⟨e', he, hk⟩
    · cases he
    · cases he
      exact .inr ⟨_, rfl, hk⟩

/-! ### The check -/

theorem isPrelude_issueNotice (i : Issue) : (Event.told (Build.issueNotice i)).IsPrelude := by
  unfold Build.issueNotice
  split
  · exact ⟨rfl, rfl, rfl⟩
  · exact isPrelude_warn _

theorem prelude_map_told {f : α → Notice} {xs : List α} (h : ∀ x, (Event.told (f x)).IsPrelude) :
    Prelude (xs.map fun x => .told (f x)) := fun e he => by
  obtain ⟨x, -, rfl⟩ := List.mem_map.mp he
  exact h x

/-- The check tells of each issue, and gives the report on the manifest. -/
theorem runs_validate {c : Configuration} {path : Path} {f : Family} {m : Manifest}
    {r : Outcome Report} (h : Runs host (Build.validate c path f m) s r s' t) :
    Prelude t ∧ r = .ok (m.validate f (c.validation path)) := by
  rcases runs_bind.mp h with ⟨v, s₁, t₁, t₂, hi, hp, rfl⟩ | ⟨e, -, hi⟩
  · obtain ⟨-, -, rfl⟩ := runs_forM_notify hi
    obtain ⟨rfl, -, rfl⟩ := runs_pure.mp hp
    exact ⟨(prelude_map_told isPrelude_issueNotice).append prelude_nil, rfl⟩
  · cases (runs_forM_notify hi).1

/-- **The check of a manifest is a prelude**; an error is one of the manifest. -/
theorem runs_requireValid {c : Configuration} {path : Path} {f : Family} {m : Manifest}
    {r : Outcome Report} (h : Runs host (Build.requireValid c path f m) s r s' t) :
    Prelude t ∧ ∀ e, r = .error e → e.kind = .manifest := by
  unfold Build.requireValid at h
  split at h
  · -- the check is skipped, and a build says so
    rcases runs_bind.mp h with ⟨v, s₁, t₁, t₂, hw, hp, rfl⟩ | ⟨e, -, hw⟩
    · obtain ⟨-, -, rfl⟩ := runs_forM_notify hw
      obtain ⟨rfl, -, rfl⟩ := runs_pure.mp hp
      refine ⟨(prelude_map_told fun _ => isPrelude_warn _).append prelude_nil, ?_⟩
      rintro e ⟨⟩
    · cases (runs_forM_notify hw).1
  · rcases runs_bind.mp h with ⟨report, s₁, t₁, t₂, hv, hs, rfl⟩ | ⟨e, -, hv⟩
    · obtain ⟨ht, hr⟩ := runs_stage_prelude hs fun h => by
        obtain ⟨-, -, rfl⟩ := runs_ofOutcome.mp h
        exact prelude_nil
      refine ⟨(runs_validate hv).1.append ht, ?_⟩
      rintro e rfl
      rcases hr with ⟨v, t₀, hr, -⟩ | ⟨e', t₀, hr, h₀⟩
      · cases hr
      · cases hr
        obtain ⟨ho, -, -⟩ := runs_ofOutcome.mp h₀
        unfold Report.outcome at ho
        split at ho <;> cases ho
        rfl
    · cases (runs_validate hv).2

/-! ### The interface files -/

/-- A notice that an interface has been read. -/
def Notice.isReading : Notice → Bool
  | .contractRead _ _ _ | .definitionsRead _ _ => true
  | _ => false

/-- Reading an interface tells that it has been read, and nothing else. -/
def Interface.Reader.IsModest (reader : Interface.Reader) : Prop :=
  ∀ ⦃name file text i notice⦄, reader name file text = .ok (i, notice) → notice.isReading = true

theorem isModest_readContract : Interface.readContract.IsModest := by
  intro name file text i notice h
  unfold Interface.readContract at h
  rcases hp : Ethereum.Abi.parse text with e | abi
  · rw [hp] at h; cases h
  · rw [hp] at h; cases h; rfl

theorem isModest_readDefinitions : Interface.readDefinitions.IsModest := by
  intro name file text i notice h
  unfold Interface.readDefinitions at h
  rcases hp : Cosmos.parseEvents text with e | events
  · rw [hp] at h; cases h
  · rw [hp] at h; cases h; rfl

/-- What reading an interface tells may stand before the first bindings are made. -/
def Interface.Reader.IsDiscreet (reader : Interface.Reader) : Prop :=
  ∀ {name file text i notice}, reader name file text = .ok (i, notice) →
    (Event.told notice).IsPrelude

theorem Interface.Reader.IsModest.isDiscreet {reader : Interface.Reader} (h : reader.IsModest) :
    reader.IsDiscreet := by
  intro name file text i notice made
  have reading := h made
  cases notice with
  | contractRead | definitionsRead => exact ⟨rfl, rfl, rfl⟩
  | _ => cases reading

/-- The generator of a family has the reader of the family. -/
theorem Family.generator_eq_present {f : Family} {options : GenerationOptions} {g : Generator}
    (h : f.generator options = .present g) :
    g.options = options ∧ g.family = f ∧ f.interfaceReader = .present g.reader := by
  cases f <;> cases h <;> exact ⟨rfl, rfl, rfl⟩

theorem Family.isModest_interfaceReader {f : Family} {reader : Interface.Reader}
    (h : f.interfaceReader = .present reader) : reader.IsModest := by
  cases f <;> cases h
  · exact isModest_readContract
  · exact isModest_readDefinitions

/-- The generator of a family reads interfaces as its family does. -/
theorem Family.isModest_generator {f : Family} {options : GenerationOptions} {g : Generator}
    (h : f.generator options = .present g) : g.reader.IsModest :=
  isModest_interfaceReader (generator_eq_present h).2.2

/-- What a reader makes of what is found in the file of an interface. -/
def Interface.Reader.opened (reader : Interface.Reader) (name : String) (file : Path) :
    Except FileFailure String → Except AbiError (Interface × Notice)
  | .error failure => .error (.unreadable failure)
  | .ok text => reader name file text

/-- The file of an interface is read, and its reader tells whether it makes an interface of it. -/
theorem run_load (host : Host σ) (reader : Interface.Reader) (name : String) (file : Path) (s : σ) :
    (Interface.load reader name file).run host s =
      match reader.opened name file (host.read s file) with
      | .error cause => ⟨.error cause, s, [.read file]⟩
      | .ok (i, notice) => ⟨.ok i, s, [.read file, .told notice]⟩ := by
  have run : (Interface.load reader name file).run host s = _ :=
    Program.run_bind host (Program.readText file) _ s
  simp only [Program.readText, Program.run, Run.after] at run
  rw [run]
  rcases host.read s file with failure | text
  · rfl
  · dsimp only [Interface.Reader.opened]
    rcases reader name file text with cause | ⟨i, notice⟩ <;> rfl

namespace Generator

/-- What the reader of a generator makes of the file of a reference. -/
def opened (g : Generator) (read : Path → Except FileFailure String) (r : AbiReference) :
    Except AbiError (Interface × Notice) := g.reader.opened r.abi r.file (read r.file)

/-- The interface of a reference, as it is read from what `read` finds in the file. -/
structure Loads (g : Generator) (read : Path → Except FileFailure String)
    (r : AbiReference) (l : LoadedAbi) : Prop where
  reference : l.reference = r
  interface : ∃ text notice, read r.file = .ok text ∧
    g.reader r.abi r.file text = .ok (l.interface, notice)

variable {g : Generator} {read : Path → Except FileFailure String} {step : String}
variable {ref : AbiReference} {refs : List AbiReference}

theorem made_of_opened {i : Interface} {notice : Notice}
    (h : g.opened read ref = .ok (i, notice)) :
    ∃ text, read ref.file = .ok text ∧ g.reader ref.abi ref.file text = .ok (i, notice) := by
  unfold opened at h
  rcases hr : read ref.file with failure | text
  · rw [hr] at h
    cases h
  · rw [hr] at h
    exact ⟨text, rfl, h⟩

theorem loads_of_opened {i : Interface} {notice : Notice}
    (h : g.opened read ref = .ok (i, notice)) : g.Loads read ref ⟨ref, i⟩ := by
  obtain ⟨text, hr, made⟩ := made_of_opened h
  exact ⟨rfl, text, notice, hr, made⟩

theorem Loads.opened {l : LoadedAbi} (h : g.Loads read ref l) :
    ∃ notice, g.opened read ref = .ok (l.interface, notice) := by
  obtain ⟨text, notice, hr, made⟩ := h.interface
  refine ⟨notice, ?_⟩
  unfold Generator.opened
  rw [hr]
  exact made

/-- What is told of an interface that has been loaded. -/
def loadedEvents (step : String) (r : AbiReference) (notice : Notice) : List Event :=
  [.read r.file, .told notice, .told (.loaded r.abi r.owner),
    .told (.progress (.step step r.file.text))]

/-- An interface is loaded, or the error says which one could not be. -/
theorem runs_loadAbi {r : Outcome LoadedAbi} (h : Runs host (g.loadAbi step ref) s r s' t) :
    s' = s ∧ ((∃ i notice, g.opened (host.read s) ref = .ok (i, notice) ∧ r = .ok ⟨ref, i⟩ ∧
        t = loadedEvents step ref notice) ∨
      ∃ cause, g.opened (host.read s) ref = .error cause ∧
        r = .error (.abiLoad ref.owner.label ref.abi ref.file cause) ∧ t = [.read ref.file]) := by
  rcases runs_bind.mp h with ⟨answer, s₁, t₁, t₂, hl, hn, rfl⟩ | ⟨e, -, hl⟩
  · obtain ⟨ha, hs, ht⟩ := runs_lift.mp hl
    rw [run_load, show g.reader.opened ref.abi ref.file (host.read s ref.file) =
      g.opened (host.read s) ref from rfl] at ha hs ht
    rcases ho : g.opened (host.read s) ref with cause | ⟨i, notice⟩
    · rw [ho] at ha hs ht
      cases ha
      cases hs
      cases ht
      obtain ⟨rfl, rfl, rfl⟩ := runs_throw.mp hn
      exact ⟨rfl, .inr ⟨cause, rfl, rfl, rfl⟩⟩
    · rw [ho] at ha hs ht
      cases ha
      cases hs
      cases ht
      obtain ⟨t₃, stepped, rfl⟩ := runs_notify_bind.mp hn
      obtain ⟨t₄, returned, rfl⟩ := runs_notify_bind.mp stepped
      obtain ⟨rfl, rfl, rfl⟩ := runs_pure.mp returned
      exact ⟨rfl, .inl ⟨i, notice, rfl, rfl, rfl⟩⟩
  · cases (runs_lift.mp hl).1

/-- Interfaces are loaded in order, up to the first that cannot be: what comes of it, and the
requests. -/
inductive Loading (g : Generator) (read : Path → Except FileFailure String) (step : String) :
    List AbiReference → Outcome (List LoadedAbi) → List Event → Prop
  | nil : Loading g read step [] (.ok []) []
  | failed {r : AbiReference} (rest : List AbiReference) {cause : AbiError}
      (opened : g.opened read r = .error cause) :
      Loading g read step (r :: rest) (.error (.abiLoad r.owner.label r.abi r.file cause))
        [.read r.file]
  | cons {r : AbiReference} {refs : List AbiReference} {i : Interface} {notice : Notice}
      {o : Outcome (List LoadedAbi)} {t : List Event} (opened : g.opened read r = .ok (i, notice))
      (rest : Loading g read step refs o t) :
      Loading g read step (r :: refs) (o.map (⟨r, i⟩ :: ·)) (loadedEvents step r notice ++ t)

/-- **Interfaces are loaded in order**, up to the first that cannot be. -/
theorem runs_loadAll {r : Outcome (List LoadedAbi)}
    (h : Runs host (refs.mapM (g.loadAbi step)) s r s' t) :
    s' = s ∧ g.Loading (host.read s) step refs r t := by
  induction refs generalizing s r t with
  | nil =>
      obtain ⟨rfl, rfl, rfl⟩ := runs_mapM_nil.mp h
      exact ⟨rfl, .nil⟩
  | cons ref refs ih =>
      rcases runs_mapM_cons.mp h with ⟨l, s₁, t₁, t₂, hl, rfl, hls⟩ | ⟨e, rfl, hl⟩
      · -- the first is loaded, and the others from the same files
        obtain ⟨rfl, ⟨i, notice, opened, hi, rfl⟩ | ⟨_, _, hi, -⟩⟩ := runs_loadAbi hl <;> cases hi
        rcases hls with ⟨ls, rfl, hls⟩ | ⟨e, rfl, hls⟩
        · obtain ⟨rfl, loading⟩ := ih hls
          exact ⟨rfl, .cons opened loading⟩
        · obtain ⟨rfl, loading⟩ := ih hls
          exact ⟨rfl, .cons opened loading⟩
      · obtain ⟨rfl, ⟨_, _, _, he, -⟩ | ⟨cause, opened, he, rfl⟩⟩ := runs_loadAbi hl <;> cases he
        exact ⟨rfl, .failed refs opened⟩

/-- What has been loaded are the interfaces of the references. -/
theorem Loading.loads {o : Outcome (List LoadedAbi)} (h : g.Loading read step refs o t) :
    (∃ ls, o = .ok ls ∧ List.Forall₂ (g.Loads read) refs ls) ∨
      ∃ e, o = .error e ∧ e.kind = .load := by
  induction h with
  | nil => exact .inl ⟨[], rfl, .nil⟩
  | failed rest opened => exact .inr ⟨_, rfl, rfl⟩
  | cons opened rest ih =>
      rcases ih with ⟨ls, rfl, loads⟩ | ⟨e, rfl, kind⟩
      · exact .inl ⟨_, rfl, .cons (loads_of_opened opened) loads⟩
      · exact .inr ⟨e, rfl, kind⟩

/-- Where every interface can be loaded, all are. -/
theorem Loading.eq_of_loads {o : Outcome (List LoadedAbi)} {ls : List LoadedAbi}
    (h : g.Loading read step refs o t) (loads : List.Forall₂ (g.Loads read) refs ls) :
    o = .ok ls := by
  induction h generalizing ls with
  | nil =>
      cases loads
      rfl
  | failed rest opened =>
      cases loads with
      | cons first others =>
          obtain ⟨notice, made⟩ := first.opened
          cases made.symm.trans opened
  | @cons r refs i notice o t opened rest ih =>
      cases loads with
      | @cons _ l _ ls first others =>
          obtain ⟨notice', made⟩ := first.opened
          obtain ⟨reference, interface⟩ := l
          cases first.reference
          cases made.symm.trans opened
          rw [ih others]
          rfl

/-- Loading asks for no output. -/
theorem Loading.quiet {o : Outcome (List LoadedAbi)} (h : g.Loading read step refs o t) :
    ∀ e ∈ t, e.isOutput = false := by
  induction h with
  | nil => exact nofun
  | failed rest opened => exact List.forall_mem_singleton.mpr rfl
  | cons opened rest ih =>
      refine List.forall_mem_append.mpr ⟨?_, ih⟩
      simp [loadedEvents, Event.isOutput]

/-- Interfaces are loaded in a prelude. -/
theorem Loading.prelude {o : Outcome (List LoadedAbi)} (hg : g.reader.IsDiscreet)
    (hstep : ∀ detail, (Progress.step step detail).written? = none)
    (h : g.Loading read step refs o t) : Prelude t := by
  induction h with
  | nil => exact prelude_nil
  | failed rest opened => exact .cons (isPrelude_read _) prelude_nil
  | @cons r refs i notice o t opened rest ih =>
      obtain ⟨text, -, made⟩ := made_of_opened opened
      have told : Prelude (loadedEvents step r notice) := .cons (isPrelude_read _) (.cons (hg made)
        (.cons ⟨rfl, rfl, rfl⟩ (.cons ⟨rfl, rfl, hstep _⟩ prelude_nil)))
      exact told.append ih

end Generator

end Subgraph

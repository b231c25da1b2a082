import Subgraph.Proofs.Builds

/-!
# Phases — what a generator goes through

Each time a generator makes the bindings of a manifest, it goes through the same states.  It loads
all interfaces, in the order of the manifest and those of data sources first; only when it has them
all does it begin to write.  At the end it is done, or it has failed.

* `Event.isMilestone`: the requests that show where a generator stands.
* `Generator.Unloaded`: interfaces have been loaded up to one that could not be.
* `Generator.Phases`: all milestones of a generator, by what came of it.
* `calls_pass_phases`: a generator goes through its phases in every call, whatever the calls before
  it were and whatever has become of the files in between.
-/

namespace Subgraph

open Subgraph.Action

variable {σ α : Type} {host : Host σ} {s s' : σ} {t t₁ t₂ : List Event}

/-! ### Milestones -/

/-- What the steps are called in which the interfaces of an owner are loaded. -/
def Owner.loadSubject : Owner → String
  | .dataSource _ => "Load contract ABI from"
  | .template _ => "Load data source template ABI from"

/-- A step in which an interface is loaded. -/
def Progress.isLoadStep : Progress → Bool
  | .step subject _ => subject == (Owner.dataSource "").loadSubject ||
    subject == (Owner.template "").loadSubject
  | _ => false

/-- A request for output or for a file to be loaded, or a notice that a state has been entered or an
interface has been loaded. -/
def Event.isMilestone : Event → Bool
  | .read _ | .dir _ _ | .file _ _ _ => true
  | .told (.entered _ _) | .told (.loaded _ _) => true
  | .told (.progress p) => p.isLoadStep
  | .told _ | .find _ => false

/-- A milestone of this event, if it is one, is a request for output. -/
def Event.IsWriting (e : Event) : Prop := e.isMilestone = true → e.isOutput = true

def milestones (t : List Event) : List Event := t.filter Event.isMilestone

theorem milestones_append (t₁ t₂ : List Event) :
    milestones (t₁ ++ t₂) = milestones t₁ ++ milestones t₂ := List.filter_append ..

/-- The milestones of loading an interface. -/
def AbiReference.milestones (r : AbiReference) : List Event :=
  [.read r.file, .told (.loaded r.abi r.owner),
    .told (.progress (.step r.owner.loadSubject r.file.text))]

namespace Generator

variable {g : Generator} {m : Manifest} {read : Path → Except FileFailure String}
variable {refs refs₁ refs₂ : List AbiReference} {e : Error} {ms : List Event} {pace : Pace}

/-- The notice that the generator is in a state. -/
def entering (g : Generator) (state : GenerationState) : Event := .told (.entered g.family state)

/-! ### Loading -/

/-- An interface can be loaded. -/
def IsLoadable (g : Generator) (read : Path → Except FileFailure String) (r : AbiReference) :
    Prop :=
  ∃ i notice, g.opened read r = .ok (i, notice)

/-- Interfaces have been loaded up to one that could not be, and the error is about that one: the
error, and the milestones. -/
inductive Unloaded (g : Generator) (read : Path → Except FileFailure String) :
    List AbiReference → Error → List Event → Prop
  | mk {before : List AbiReference} {r : AbiReference} (rest : List AbiReference) {cause : AbiError}
      {e : Error} (loadable : ∀ x ∈ before, g.IsLoadable read x)
      (failed : g.opened read r = .error cause)
      (innermost : e.innermost = .abiLoad r.owner.label r.abi r.file cause) :
      Unloaded g read (before ++ r :: rest) e
        (before.flatMap AbiReference.milestones ++ [.read r.file])

theorem Unloaded.within (h : g.Unloaded read refs e ms) (frame : Frame) :
    g.Unloaded read refs (.context frame e) ms := by
  obtain ⟨rest, loadable, failed, innermost⟩ := h
  exact .mk rest loadable failed innermost

/-- What was not reached does not matter. -/
theorem Unloaded.extend (h : g.Unloaded read refs₁ e ms) (refs₂ : List AbiReference) :
    g.Unloaded read (refs₁ ++ refs₂) e ms := by
  obtain ⟨rest, loadable, failed, innermost⟩ := h
  rw [List.append_assoc]
  exact .mk (rest ++ refs₂) loadable failed innermost

theorem Unloaded.after (loadable : ∀ x ∈ refs₁, g.IsLoadable read x)
    (h : g.Unloaded read refs₂ e ms) :
    g.Unloaded read (refs₁ ++ refs₂) e (refs₁.flatMap AbiReference.milestones ++ ms) := by
  obtain ⟨rest, loadable', failed, innermost⟩ := h
  rw [← List.append_assoc, ← List.append_assoc, ← List.flatMap_append]
  exact .mk rest (List.forall_mem_append.mpr ⟨loadable, loadable'⟩) failed innermost

theorem milestones_loadedEvents {r : AbiReference} {i : Interface} {notice : Notice}
    (modest : g.reader.IsModest) (opened : g.opened read r = .ok (i, notice)) :
    Subgraph.milestones (loadedEvents r.owner.loadSubject r notice) = r.milestones := by
  obtain ⟨text, -, made⟩ := made_of_opened opened
  have reading := modest made
  have step : (Event.told (.progress (.step r.owner.loadSubject r.file.text))).isMilestone = true :=
    by cases r.owner <;> rfl
  have told : (Event.told notice).isMilestone = false := by
    cases notice with
    | contractRead | definitionsRead => rfl
    | _ => cases reading
  unfold Subgraph.milestones loadedEvents AbiReference.milestones
  rw [List.filter_cons_of_pos rfl, List.filter_cons_of_neg (by rw [told]; exact nofun),
    List.filter_cons_of_pos rfl, List.filter_cons_of_pos step, List.filter_nil]

/-- **Loading passes the milestones of each interface**, up to the first that cannot be loaded. -/
theorem Loading.milestones {step : String} {o : Outcome (List LoadedAbi)}
    (modest : g.reader.IsModest) (subject : ∀ r ∈ refs, r.owner.loadSubject = step)
    (h : g.Loading read step refs o t) :
    (∃ ls, o = .ok ls ∧ (∀ r ∈ refs, g.IsLoadable read r) ∧
        Subgraph.milestones t = refs.flatMap AbiReference.milestones) ∨
      ∃ e, o = .error e ∧ g.Unloaded read refs e (Subgraph.milestones t) := by
  induction h with
  | nil => exact .inl ⟨[], rfl, nofun, rfl⟩
  | failed rest opened => exact .inr ⟨_, rfl, @Unloaded.mk _ _ [] _ rest _ _ nofun opened rfl⟩
  | @cons r refs i notice o t opened rest ih =>
      obtain ⟨first, others⟩ := List.forall_mem_cons.mp subject
      have loadable : ∀ x ∈ [r], g.IsLoadable read x :=
        List.forall_mem_singleton.mpr ⟨i, notice, opened⟩
      rw [milestones_append, ← first, milestones_loadedEvents modest opened]
      rcases ih others with ⟨ls, rfl, all, passed⟩ | ⟨e, rfl, unloaded⟩
      · rw [passed]
        exact .inl ⟨_, rfl, List.forall_mem_append.mpr ⟨loadable, all⟩, rfl⟩
      · have unloaded' := unloaded.after loadable
        rw [List.flatMap_singleton] at unloaded'
        exact .inr ⟨e, rfl, unloaded'⟩

theorem isLoadStep_of_isMark {p : Progress} (h : p.isMark = true) : p.isLoadStep = false := by
  cases p with
  | begin | succeed | fail => rfl
  | step | warn => cases h

theorem milestones_of_stage {title failure : String} {work : Action α} {r : Outcome α}
    (h : Runs host (stage title failure work) s r s' t) :
    (∃ v t₀, r = .ok v ∧ Runs host work s (.ok v) s' t₀ ∧
        Subgraph.milestones t = Subgraph.milestones t₀) ∨
      ∃ e t₀, r = .error (.context (.stage failure) e) ∧ Runs host work s (.error e) s' t₀ ∧
        Subgraph.milestones t = Subgraph.milestones t₀ := by
  rcases runs_stage h with ⟨v, t₀, rfl, h₀, rfl⟩ | ⟨e, t₀, rfl, h₀, rfl⟩
  · refine .inl ⟨v, t₀, rfl, h₀, ?_⟩
    simp [Subgraph.milestones, Event.isMilestone, Progress.isLoadStep]
  · refine .inr ⟨e, t₀, rfl, h₀, ?_⟩
    simp [Subgraph.milestones, Event.isMilestone, Progress.isLoadStep]

/-- What comes of a stage that loads the interfaces of some references. -/
theorem milestones_of_loadStage {title failure step : String} {r : Outcome (List LoadedAbi)}
    (modest : g.reader.IsModest) (subject : ∀ r ∈ refs, r.owner.loadSubject = step)
    (h : Runs host (stage title failure (refs.mapM (g.loadAbi step))) s r s' t) :
    s' = s ∧ ((∃ ls, r = .ok ls ∧ (∀ r ∈ refs, g.IsLoadable (host.read s) r) ∧
        Subgraph.milestones t = refs.flatMap AbiReference.milestones) ∨
      ∃ e, r = .error e ∧ g.Unloaded (host.read s) refs e (Subgraph.milestones t)) := by
  rcases milestones_of_stage h with ⟨ls, t₀, rfl, h₀, passed⟩ | ⟨e, t₀, rfl, h₀, passed⟩
  · obtain ⟨unchanged, loading⟩ := runs_loadAll h₀
    rcases loading.milestones modest subject with ⟨ls', -, loadable, passed'⟩ | ⟨e, he, -⟩
    · exact ⟨unchanged, .inl ⟨ls, rfl, loadable, passed.trans passed'⟩⟩
    · cases he
  · obtain ⟨unchanged, loading⟩ := runs_loadAll h₀
    rcases loading.milestones modest subject with ⟨ls', hls, -⟩ | ⟨e', he, unloaded⟩
    · cases hls
    · cases he
      rw [passed]
      exact ⟨unchanged, .inr ⟨_, rfl, unloaded.within _⟩⟩

/-! ### Writing -/

theorem emits_isWriting {title failure : String} {work : Action α}
    (h : Emits host Event.IsWriting work) : Emits host Event.IsWriting (stage title failure work) := by
  refine emits_stage (fun p mark milestone => ?_) h
  have : p.isLoadStep = true := milestone
  rw [isLoadStep_of_isMark mark] at this
  cases this

theorem isWriting_of_isOwn {l : LoadedAbi} {e : Event} (h : g.IsOwn l e) : e.IsWriting := by
  cases h with
  | announcement | success => exact nofun
  | dir | file => exact fun _ => rfl

theorem isOutput_of_mem_milestones (h : ∀ e ∈ t, e.IsWriting) :
    ∀ e ∈ Subgraph.milestones t, e.isOutput = true := by
  intro e he
  obtain ⟨mem, milestone⟩ := List.mem_filter.mp he
  exact h e mem milestone

/-! ### The whole -/

/-- What a generator goes through for a manifest, by what comes of it: its milestones. -/
inductive Phases (g : Generator) (read : Path → Except FileFailure String) (m : Manifest) :
    Outcome (List Artifact) → List Event → Prop
  | unloaded {e : Error} {loading : List Event} (h : g.Unloaded read (g.references m) e loading) :
      Phases g read m (.error e) (g.entering .loading :: loading ++ [g.entering .failed])
  | loaded {o : Outcome (List Artifact)} {writing : List Event}
      (loadable : ∀ r ∈ g.references m, g.IsLoadable read r)
      (output : ∀ e ∈ writing, e.isOutput = true) :
      Phases g read m o
        (g.entering .loading :: (g.references m).flatMap AbiReference.milestones ++
          g.entering .generating :: writing ++
          [g.entering (if o.toBool then .done else .failed)])

theorem loadSubject_dataSource {r : AbiReference} (h : r ∈ g.located m.dataSourceAbis) :
    r.owner.loadSubject = "Load contract ABI from" := by
  obtain ⟨r₀, h₀, rfl⟩ := List.mem_map.mp h
  obtain ⟨e, -, he⟩ := List.mem_flatMap.mp h₀
  obtain ⟨abi, -, rfl⟩ := List.mem_map.mp he
  rfl

theorem loadSubject_template {r : AbiReference} (h : r ∈ g.located m.templateAbis) :
    r.owner.loadSubject = "Load data source template ABI from" := by
  obtain ⟨r₀, h₀, rfl⟩ := List.mem_map.mp h
  obtain ⟨e, -, he⟩ := List.mem_flatMap.mp h₀
  obtain ⟨abi, -, rfl⟩ := List.mem_map.mp he
  rfl

/-- **The stages between the first state and the last**: an interface cannot be loaded, or all are
loaded before the generator begins to write. -/
theorem phases_of_work (modest : g.reader.IsModest) {r : Outcome (List Artifact)}
    (h : Runs host (g.work m pace) s r s' t) :
    (∃ e, r = .error e ∧ g.Unloaded (host.read s) (g.references m) e (Subgraph.milestones t)) ∨
      (∀ r ∈ g.references m, g.IsLoadable (host.read s) r) ∧ ∃ writing,
        (∀ e ∈ writing, e.isOutput = true) ∧ Subgraph.milestones t =
          (g.references m).flatMap AbiReference.milestones ++
            g.entering .generating :: writing := by
  rcases runs_bind.mp h with ⟨ls₁, s₁, t₁, t₂, h₁, rest, rfl⟩ | ⟨e, rfl, h₁⟩
  · obtain ⟨rfl, hr⟩ := milestones_of_loadStage modest (fun _ => loadSubject_dataSource) h₁
    rcases hr with ⟨_, -, loadable₁, passed₁⟩ | ⟨_, he, -⟩
    · rcases runs_bind.mp rest with ⟨ls₂, s₂, t₃, t₄, h₂, written, rfl⟩ | ⟨e, rfl, h₂⟩
      · obtain ⟨rfl, hr⟩ := milestones_of_loadStage modest (fun _ => loadSubject_template) h₂
        rcases hr with ⟨_, -, loadable₂, passed₂⟩ | ⟨_, he, -⟩
        · obtain ⟨t₅, stages, rfl⟩ := runs_notify_bind.mp written
          have writing : ∀ e ∈ t₅, e.IsWriting :=
            (emits_isWriting (emits_writeAll isWriting_of_isOwn ls₁)).bind (fun _ =>
              (emits_isWriting (emits_writeTogether isWriting_of_isOwn pace ls₂)).bind fun _ =>
                emits_pure _) stages
          refine .inr ⟨List.forall_mem_append.mpr ⟨loadable₁, loadable₂⟩, Subgraph.milestones t₅,
            isOutput_of_mem_milestones writing, ?_⟩
          rw [milestones_append, milestones_append, passed₁, passed₂, references,
            List.flatMap_append, List.append_assoc]
          rfl
        · cases he
      · -- an interface of a template cannot be loaded, after those of all data sources
        obtain ⟨-, hr⟩ := milestones_of_loadStage modest (fun _ => loadSubject_template) h₂
        rcases hr with ⟨_, he, -⟩ | ⟨_, he, unloaded⟩ <;> cases he
        rw [milestones_append, passed₁]
        exact .inl ⟨e, rfl, unloaded.after loadable₁⟩
    · cases he
  · obtain ⟨-, hr⟩ := milestones_of_loadStage modest (fun _ => loadSubject_dataSource) h₁
    rcases hr with ⟨_, he, -⟩ | ⟨_, he, unloaded⟩ <;> cases he
    exact .inl ⟨e, rfl, unloaded.extend _⟩

/-- **A generator goes through its phases.** -/
theorem phases_of_generate (modest : g.reader.IsModest) {r : Outcome (List Artifact)}
    (h : Runs host (g.generate m pace) s r s' t) :
    g.Phases (host.read s) m r (Subgraph.milestones t) := by
  obtain ⟨t₀, work, rfl⟩ := runs_of_generate h
  have between : Subgraph.milestones (.told (.entered g.family .loading) :: t₀ ++
      [.told (.entered g.family (if r.toBool then .done else .failed))]) =
      g.entering .loading :: Subgraph.milestones t₀ ++
        [g.entering (if r.toBool then .done else .failed)] := milestones_append _ _
  rw [between]
  rcases phases_of_work modest work with ⟨e, rfl, unloaded⟩ | ⟨loadable, writing, output, passed⟩
  · exact .unloaded unloaded
  · rw [passed]
    exact .loaded loadable output

/-! ### Calls -/

/-- A call of a generator: the manifest, what becomes of the files before it, and how soon answers
are there. -/
structure Call (σ : Type) where
  manifest : Manifest
  meanwhile : σ → σ := id
  pace : Pace := []

/-- The files between two calls of a generator, and the state that it is in. -/
structure Standing (σ : Type) where
  files : σ
  state : GenerationState := .idle

/-- A call of a generator, after those that have led to where it stands. -/
def call (g : Generator) (host : Host σ) (before : Standing σ) (c : Call σ) :
    Run σ (Outcome (List Artifact)) :=
  (g.generate c.manifest c.pace).run.run host (c.meanwhile before.files)

/-- Where a generator stands after one more call. -/
def afterCall (g : Generator) (host : Host σ) (before : Standing σ) (c : Call σ) : Standing σ :=
  let run := g.call host before c
  ⟨run.state, before.state.after run.notices⟩

/-- A call goes through the phases of a generator, and leaves the generator in the last of them. -/
structure PassesPhases (g : Generator) (host : Host σ) (before : Standing σ) (c : Call σ) :
    Prop where
  phases : g.Phases (host.read (c.meanwhile before.files)) c.manifest (g.call host before c).value
    (Subgraph.milestones (g.call host before c).trace)
  state : (g.afterCall host before c).state =
    if (g.call host before c).value.toBool then .done else .failed

/-- Each of some calls goes through the phases of a generator. -/
def AllPassPhases (g : Generator) (host : Host σ) : Standing σ → List (Call σ) → Prop
  | _, [] => True
  | before, c :: calls =>
    g.PassesPhases host before c ∧ g.AllPassPhases host (g.afterCall host before c) calls

theorem after_entered (state : GenerationState) (notices : List Notice) (f : Family)
    (next : GenerationState) : state.after (notices ++ [.entered f next]) = next := by
  unfold GenerationState.after
  rw [List.foldl_append]
  rfl

theorem passesPhases_call (modest : g.reader.IsModest) (before : Standing σ) (c : Call σ) :
    g.PassesPhases host before c := by
  have h := runs_self host (g.generate c.manifest c.pace) (c.meanwhile before.files)
  refine ⟨phases_of_generate modest h, ?_⟩
  obtain ⟨t₀, -, ht⟩ := runs_of_generate h
  have notices : (g.call host before c).notices =
      (.entered g.family .loading :: t₀.filterMap Event.notice?) ++
        [.entered g.family (if (g.call host before c).value.toBool then .done else .failed)] := by
    unfold Run.notices
    rw [show (g.call host before c).trace = _ from ht, List.filterMap_append]
    rfl
  show before.state.after (g.call host before c).notices = _
  rw [notices, after_entered]

/-- **A generator goes through its phases in every call.**

Whatever the calls before were, what has become of the files, how soon answers are there, and what
comes of this one: the
interfaces of the manifest are loaded in order; if one cannot be, the error is about it and no later
one has been tried; nothing is asked for before all are loaded; and at the end the generator is done
if it has succeeded, and has failed otherwise. -/
theorem calls_pass_phases (modest : g.reader.IsModest) (host : Host σ) (start : Standing σ)
    (calls : List (Call σ)) : g.AllPassPhases host start calls := by
  induction calls generalizing start with
  | nil => exact trivial
  | cons c calls ih => exact ⟨passesPhases_call modest start c, ih _⟩

/-- The interface of the template is not there at first, and is before the second call. -/
theorem calls_pass_phases_bankAndPool :
    AllPassPhases ⟨.tendermint, { outputDir := ⟨"out"⟩ }, Interface.readDefinitions⟩ Build.inMemory
      ⟨[(⟨"bank.json"⟩, "[]")], .idle⟩
      [⟨Build.bankAndPool, id, []⟩, ⟨Build.bankAndPool, ((⟨"pool.json"⟩, "[]") :: ·), [[2]]⟩] :=
  calls_pass_phases isModest_readDefinitions _ _ _

end Generator

end Subgraph

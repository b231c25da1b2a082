import Subgraph.Proofs.Builds

/-!
# Stages — the progress of a build

A build works in stages.  A stage begins, takes steps, and succeeds or fails; the next one begins
only when it has succeeded, and between stages there are nothing but warnings.

* `Progress.Settled`: all stages that have begun have succeeded.
* `Progress.Broken`: the last stage has failed, and all before it have succeeded.
* `Action.Staged`: an action that is done in stages tells a settled log when it succeeds.  When it
  fails, its log is broken, and the error has the frame of the stage that failed.
* `run_tells_stages`: a build is done in stages, except that an unknown family is found between two.
-/

namespace Subgraph

open Subgraph.Action

variable {σ α β : Type} {host : Host σ} {s s' : σ} {t t₁ t₂ : List Event}

/-! ### Logs of stages -/

namespace Progress

def isStep : Progress → Bool
  | .step _ _ => true
  | .begin _ | .warn _ | .succeed _ | .fail _ _ => false

/-- Warnings and stages that have succeeded, one after the other. -/
inductive Settled : List Progress → Prop
  | nil : Settled []
  | warn (message : String) {log : List Progress} (rest : Settled log) :
      Settled (.warn message :: log)
  | stage (title : String) {steps log : List Progress} (work : ∀ p ∈ steps, p.isStep = true)
      (rest : Settled log) : Settled (.begin title :: steps ++ .succeed title :: log)

/-- Warnings and stages that have succeeded, and then one stage that has failed. -/
inductive Broken (text error : String) : List Progress → Prop
  | mk {log steps : List Progress} (before : Settled log) (title : String)
      (work : ∀ p ∈ steps, p.isStep = true) :
      Broken text error (log ++ .begin title :: steps ++ [.fail text error])

variable {log log₁ log₂ : List Progress} {text error : String}

theorem Settled.append (h₁ : Settled log₁) (h₂ : Settled log₂) : Settled (log₁ ++ log₂) := by
  induction h₁ with
  | nil => exact h₂
  | warn message rest ih => exact .warn message ih
  | stage title work rest ih =>
      rw [List.append_assoc]
      exact .stage title work ih

theorem Settled.broken (h₁ : Settled log₁) (h₂ : Broken text error log₂) :
    Broken text error (log₁ ++ log₂) := by
  obtain ⟨before, title, work⟩ := h₂
  rw [← List.append_assoc, ← List.append_assoc]
  exact .mk (h₁.append before) title work

/-- Where all stages have succeeded, none has failed. -/
theorem Settled.not_failed (h : Settled log) : .fail text error ∉ log := by
  induction h with
  | nil => exact List.not_mem_nil
  | warn message rest ih => simpa using ih
  | stage title work rest ih =>
      intro hm
      rcases List.mem_append.mp hm with hm | hm
      · rcases List.mem_cons.mp hm with hp | hm
        · cases hp
        · cases work _ hm
      · rcases List.mem_cons.mp hm with hp | hm
        · cases hp
        · exact ih hm

end Progress

open Progress

/-! ### Actions in stages -/

/-- The progress that a trace tells of. -/
def progressIn (t : List Event) : List Progress := t.filterMap Event.progress?

theorem progressIn_append (t₁ t₂ : List Event) :
    progressIn (t₁ ++ t₂) = progressIn t₁ ++ progressIn t₂ := List.filterMap_append

/-- A request that tells of no progress, unless of a step. -/
def Event.IsWork (e : Event) : Prop := ∀ p, e.progress? = some p → p.isStep = true

theorem isStep_of_mem_progressIn (h : ∀ e ∈ t, e.IsWork) : ∀ p ∈ progressIn t, p.isStep = true := by
  intro p hp
  obtain ⟨e, he, told⟩ := List.mem_filterMap.mp hp
  exact h e he p told

/-- A log of stages, with what came of them: it is settled, or it is broken and the error is that of
the stage that failed. -/
def Stages (log : List Progress) : Outcome α → Prop
  | .ok _ => Settled log
  | .error e => e.kind ≠ .resolution ∧
    ∃ text cause, e = .context (.stage text) cause ∧ Broken text cause.message log

/-- All that an action tells are stages. -/
def Action.Staged (host : Host σ) (a : Action α) : Prop :=
  ∀ ⦃s : σ⦄ ⦃r : Outcome α⦄ ⦃s' : σ⦄ ⦃t : List Event⦄,
    Runs host a s r s' t → Stages (progressIn t) r

/-- No family is looked for in an action, or it is found. -/
def Action.IsResolved (host : Host σ) (a : Action α) : Prop :=
  ∀ ⦃s : σ⦄ ⦃e : Error⦄ ⦃s' : σ⦄ ⦃t : List Event⦄, Runs host a s (.error e) s' t →
    e.kind ≠ .resolution

/-- **A stage is one**, if its work takes steps only. -/
theorem staged_stage {title failure : String} {work : Action α}
    (steps : Emits host Event.IsWork work) (resolved : IsResolved host work) :
    Staged host (stage title failure work) := by
  intro s r s' t h
  rcases runs_stage h with ⟨v, t₀, rfl, h₀, rfl⟩ | ⟨e, t₀, rfl, h₀, rfl⟩
  · rw [progressIn_append]
    exact .stage title (isStep_of_mem_progressIn (steps h₀)) .nil
  · rw [progressIn_append]
    have kind : e.kind ≠ .resolution := resolved h₀
    refine ⟨kind, failure, e, rfl, ?_⟩
    exact .mk .nil title (isStep_of_mem_progressIn (steps h₀))

theorem Progress.Settled.stages {log₁ log₂ : List Progress} {r : Outcome α} (h₁ : Settled log₁)
    (h₂ : Stages log₂ r) : Stages (log₁ ++ log₂) r := by
  cases r with
  | ok v => exact h₁.append h₂
  | error e =>
      obtain ⟨kind, text, cause, he, broken⟩ := h₂
      exact ⟨kind, text, cause, he, h₁.broken broken⟩

/-- What follows on stages may be stages again. -/
theorem Action.Staged.bind {a : Action α} {f : α → Action β} (ha : Staged host a)
    (hf : ∀ v, Staged host (f v)) : Staged host (a >>= f) := by
  intro s r s' t h
  rcases runs_bind.mp h with ⟨v, s₁, t₁, t₂, h₁, h₂, rfl⟩ | ⟨e, rfl, h₁⟩
  · rw [progressIn_append]
    exact Settled.stages (ha h₁) (hf v h₂)
  · exact ha h₁

theorem staged_pure (v : α) : Staged host (pure v) := by
  intro s r s' t h
  obtain ⟨rfl, -, rfl⟩ := runs_pure.mp h
  exact .nil

theorem settled_told {notice : Notice}
    (h : ∀ p, notice.progress? = some p → ∃ message, p = .warn message) :
    Settled (progressIn [.told notice]) := by
  rcases hp : notice.progress? with _ | p
  · have none : progressIn [.told notice] = [] := by
      simp [progressIn, Event.progress?, Event.notice?, hp]
    rw [none]
    exact .nil
  · obtain ⟨message, rfl⟩ := h p hp
    have warning : progressIn [.told notice] = [.warn message] := by
      simp [progressIn, Event.progress?, Event.notice?, hp]
    rw [warning]
    exact .warn message .nil

/-- Between stages there may be warnings. -/
theorem staged_notify {notice : Notice}
    (h : ∀ p, notice.progress? = some p → ∃ message, p = .warn message) :
    Staged host (notify notice) := by
  intro s r s' t runs
  obtain ⟨rfl, -, rfl⟩ := runs_notify.mp runs
  exact settled_told h

theorem staged_forM {f : α → Action Unit} (hf : ∀ x, Staged host (f x)) (xs : List α) :
    Staged host (xs.forM f) := by
  induction xs with
  | nil => exact staged_pure ()
  | cons x xs ih => exact (hf x).bind fun _ => ih

/-! ### The stages of a build -/

theorem isWork_of_isOutput (e : Event) (h : e.isOutput = true) : e.IsWork := by
  cases e with
  | dir | file => exact nofun
  | read | find | told => cases h

theorem isWork_step (subject detail : String) :
    (Event.told (.progress (.step subject detail))).IsWork := by
  rintro p ⟨⟩
  rfl

namespace Generator

variable {g : Generator} {m : Manifest} {pace : Pace}

/-- Loading an interface takes one step. -/
theorem emits_loadAbi (modest : g.reader.IsModest) (step : String) (r : AbiReference) :
    Emits host Event.IsWork (g.loadAbi step r) := by
  intro s o s' t h
  rcases runs_loadAbi h with ⟨-, ⟨i, notice, opened, -, rfl⟩ | ⟨cause, -, -, rfl⟩⟩
  · obtain ⟨text, -, made⟩ := made_of_opened opened
    have told : (Event.told notice).IsWork := by
      have reading := modest made
      cases notice with
      | contractRead | definitionsRead => exact nofun
      | _ => cases reading
    exact List.forall_mem_cons.mpr ⟨nofun, List.forall_mem_cons.mpr ⟨told,
      List.forall_mem_cons.mpr ⟨nofun, List.forall_mem_singleton.mpr (isWork_step _ _)⟩⟩⟩
  · exact List.forall_mem_singleton.mpr nofun

/-- Writing bindings takes one step. -/
theorem isWork_of_isOwn {l : LoadedAbi} {e : Event} (h : g.IsOwn l e) : e.IsWork := by
  cases h with
  | announcement | dir | file => exact nofun
  | success => exact isWork_step _ _

theorem isResolved_loadAll (step : String) (refs : List AbiReference) :
    IsResolved host (refs.mapM (g.loadAbi step)) := by
  intro s e s' t h
  rcases (runs_loadAll h).2.loads with ⟨_, he, -⟩ | ⟨_, he, kind⟩
  · cases he
  · cases he
    rw [kind]
    exact nofun

theorem isResolved_writeTogether (pace : Pace) (ls : List LoadedAbi) :
    IsResolved host (g.writeTogether pace ls) := by
  intro s e s' t h
  rcases (runs_writeTogether h).2 with ⟨_, he, -⟩ | ⟨_, he, l, -, fails⟩ <;> cases he
  intro kind
  exact Build.not_early fails.kind (kind ▸ by decide)

theorem staged_writeTogether {title failure : String} (pace : Pace) (ls : List LoadedAbi) :
    Staged host (stage title failure (g.writeTogether pace ls)) :=
  staged_stage (emits_writeTogether isWork_of_isOwn pace ls) (isResolved_writeTogether pace ls)

/-- **Making all bindings is done in stages**: two of loading, and two of writing. -/
theorem staged_work (modest : g.reader.IsModest) : Staged host (g.work m pace) := by
  refine Staged.bind ?_ fun abis => Staged.bind ?_ fun templateAbis => Staged.bind ?_ fun _ =>
    Staged.bind ?_ fun artifacts => Staged.bind ?_ fun templateArtifacts => staged_pure _
  · exact staged_stage (emits_mapM (emits_loadAbi modest _) _) (isResolved_loadAll _ _)
  · exact staged_stage (emits_mapM (emits_loadAbi modest _) _) (isResolved_loadAll _ _)
  · exact staged_notify nofun
  · rw [← writeTogether_nil]
    exact staged_writeTogether [] abis
  · exact staged_writeTogether pace templateAbis

theorem staged_generate (modest : g.reader.IsModest) : Staged host (g.generate m pace) := by
  intro s r s' t h
  obtain ⟨t₀, work, rfl⟩ := runs_of_generate h
  have between : progressIn (.told (.entered g.family .loading) :: t₀ ++
      [.told (.entered g.family (if r.toBool then .done else .failed))]) = progressIn t₀ := by
    rw [progressIn_append]
    exact List.append_nil (progressIn t₀)
  rw [between]
  exact staged_work modest work

end Generator

namespace Build

variable {c : Configuration} {path : Path} {f : Family} {m : Manifest} {pace : Pace}

/-- No family is looked for where the file of the templates is made. -/
theorem kind_of_templatesText {templates : List Entry} {e : Error}
    (h : templatesText f templates = .error e) : e.kind ≠ .resolution := by
  rcases hstyle : f.templateStyle with style | _
  · obtain ⟨text, made⟩ := exists_templatesText hstyle templates
    rw [made] at h
    cases h
  · cases templates with
    | nil =>
        -- there is nothing to refuse, so the text could only not be laid out
        have laid : Generated.moduleText [] [] = .error e := h
        unfold Generated.moduleText at laid
        rcases hl : Layout.format (Generated.looseText [] []) with problem | text
        · rw [hl] at laid
          cases laid
          exact nofun
        · rw [hl] at laid
          cases laid
    | cons template templates =>
        have refused : templateParts f template = .error (.context
            (.owner (.template template.name))
            (.unsupportedCapability f.name "template code generation")) := by
          unfold templateParts Family.requireTemplateStyle
          rw [hstyle]
          rfl
        unfold templatesText at h
        rw [List.mapM_cons, refused] at h
        cases h
        exact nofun

/-- Reading a manifest is one request. -/
theorem trace_readManifest {r : Outcome Manifest} (h : Runs host (readManifest path) s r s' t) :
    t = [.read path] := by
  rcases runs_bind.mp h with ⟨answer, s₁, t₁, t₂, hr, parsed, rfl⟩ | ⟨e, -, hr⟩
  · obtain ⟨-, rfl, rfl⟩ := runs_readText.mp hr
    cases answer with
    | error failure =>
        obtain ⟨-, -, rfl⟩ := runs_throw.mp parsed
        rfl
    | ok text =>
        obtain ⟨-, -, rfl⟩ := runs_ofOutcome.mp parsed
        rfl
  · cases (runs_readText.mp hr).1

theorem staged_loadManifest : Staged host (loadManifest path) := by
  refine staged_stage ?_ ?_
  · intro s r s' t h
    rw [trace_readManifest h]
    exact List.forall_mem_singleton.mpr nofun
  · intro s e s' t h
    rcases (runs_readManifest h).2 with ⟨_, _, _, _, he⟩ | ⟨_, he, kind⟩
    · cases he
    · cases he
      rw [kind]
      exact nofun

/-- A manifest that is read is told of by its stage alone. -/
theorem progressIn_loadManifest (h : Runs host (loadManifest path) s (.ok m) s' t) :
    progressIn t =
      [.begin s!"Load subgraph from {path}", .succeed s!"Load subgraph from {path}"] := by
  rcases runs_stage h with ⟨v, t₀, -, h₀, rfl⟩ | ⟨_, _, he, -⟩
  · rw [trace_readManifest h₀]
    rfl
  · cases he

theorem staged_validate : Staged host (validate c path f m) := by
  refine (staged_forM (fun i => staged_notify ?_) _).bind fun _ => staged_pure _
  intro p hp
  unfold issueNotice at hp
  split at hp
  · cases hp
  · cases hp
    exact ⟨_, rfl⟩

theorem staged_requireValid : Staged host (requireValid c path f m) := by
  unfold requireValid
  split
  · refine (staged_forM (fun kind => staged_notify ?_) _).bind fun _ => staged_pure _
    rintro p ⟨⟩
    exact ⟨_, rfl⟩
  · refine staged_validate.bind fun report => staged_stage (emits_ofOutcome _) ?_
    intro s e s' t h
    obtain ⟨ho, -, -⟩ := runs_ofOutcome.mp h
    unfold Report.outcome at ho
    split at ho <;> cases ho
    exact nofun

theorem staged_writeBindings : Staged host (writeBindings c path f m pace) := by
  unfold writeBindings
  rcases hg : f.generator (c.generation path) with g | _
  · exact Generator.staged_generate (Family.isModest_generator hg)
  · refine (staged_notify ?_).bind fun _ => staged_pure _
    rintro p ⟨⟩
    exact ⟨_, rfl⟩

theorem staged_writeTemplates? : Staged host (writeTemplates? c f m) := by
  unfold writeTemplates?
  split
  · exact staged_pure none
  · refine (staged_stage ?_ ?_).bind fun a => staged_pure _
    · refine (emits_ofOutcome _).bind fun text => (emits_writeFile isWork_of_isOutput).bind fun _ =>
        (emits_notify (isWork_step _ _)).bind fun _ => emits_pure _
    · intro s e s' t h
      rcases runs_writeTemplates h with
        ⟨_, he, made, -⟩ | ⟨text, -, ⟨_, he, file⟩ | ⟨_, he, -⟩⟩
      · cases he
        exact kind_of_templatesText made
      · cases he
        rw [file.kind]
        exact nofun
      · cases he

/-- What a build does once the family is known is done in stages. -/
theorem staged_rest : Staged host (do
    Action.notify (.runBegun f m.dataSources.length m.templates.length)
    let report ← requireValid c path f m
    let artifacts ← writeBindings c path f m pace
    let templates? ← writeTemplates? c f m
    return (⟨f, artifacts, templates?, report⟩ : BuildSummary)) := by
  refine Staged.bind ?_ fun _ => staged_requireValid.bind fun report =>
    staged_writeBindings.bind fun artifacts => staged_writeTemplates?.bind fun templates? =>
      staged_pure _
  exact staged_notify nofun

theorem kind_of_family {e : Error} (h : family m = .error e) : e.kind = .resolution := by
  unfold family Protocol.require at h
  split at h <;> cases h
  rfl

/-- How the progress of a build belongs to what comes of it. -/
def TellsStages (path : Path) (log : List Progress) : Outcome BuildSummary → Prop
  | .ok _ => Settled log ∧ ∀ text error, .fail text error ∉ log
  | .error e =>
    if e.kind = .resolution then
      log = [.begin s!"Load subgraph from {path}", .succeed s!"Load subgraph from {path}"]
    else ∃ text error, Broken text error log ∧ e.frames.head? = some (.stage text) ∧
      e.message = text ++ ": " ++ error

theorem tellsStages_of_stages {log : List Progress} {r : Outcome BuildSummary} (h : Stages log r) :
    TellsStages path log r := by
  cases r with
  | ok summary => exact ⟨h, fun _ _ => Settled.not_failed h⟩
  | error e =>
      obtain ⟨kind, text, cause, rfl, broken⟩ := h
      rw [TellsStages, if_neg kind]
      exact ⟨text, cause.message, broken, rfl, rfl⟩

/-- **A build tells of its stages.**

Each stage takes its steps between its begin and its end, and only warnings stand between stages.
A build that succeeds has told of no failure.  One that fails ends with the stage that failed, whose
text and error are the frame and the message of its error; except that the family of a manifest is
looked for right after the manifest has been read, and in no stage. -/
theorem run_tells_stages (host : Host σ) (c : Configuration) (path : Path) (pace : Pace) (s : σ) :
    TellsStages path (Program.run host (run c path pace).run s).progress
      (Program.run host (run c path pace).run s).value := by
  rcases hr : (run c path pace).run.run host s with ⟨r, s', t⟩
  show TellsStages path (progressIn t) r
  have h : Runs host (run c path pace) s r s' t := hr
  rcases runs_bind.mp h with ⟨m, s₁, t₁, t₂, read, found, rfl⟩ | ⟨e, rfl, read⟩
  · rw [progressIn_append]
    rcases runs_bind.mp found with ⟨f, s₂, t₃, t₄, hf, rest, rfl⟩ | ⟨e, rfl, hf⟩
    · obtain ⟨-, rfl, rfl⟩ := runs_ofOutcome.mp hf
      exact tellsStages_of_stages (Settled.stages (staged_loadManifest read) (staged_rest rest))
    · -- the manifest has been read, and it has no family
      obtain ⟨unknown, -, rfl⟩ := runs_ofOutcome.mp hf
      rw [TellsStages, if_pos (kind_of_family unknown.symm), progressIn_loadManifest read]
      rfl
  · exact tellsStages_of_stages (r := .error e) (staged_loadManifest read)

end Build

end Subgraph

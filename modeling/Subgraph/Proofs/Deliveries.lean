import Subgraph.Proofs.Builds

/-!
# Deliveries — what has been written when a build fails

Once all interfaces of a manifest have been loaded, their bindings are written, those of data sources
first.  Where no answer has to be waited for, those of templates are written one after the other,
too.  Each is delivered, or it is refused: no bindings can be made of it, a name in its path is
refused, its directory is, or its file is.  The first refusal is the end of it.

* `Generator.Delivered`: the bindings of some interfaces have been delivered, with nothing but the
  requests for their directories and files.
* `Generator.Refused`: the four ways in which bindings are refused, each with its error.
* `Generator.Delivery`: bindings have been delivered up to the first that were refused.
* `generate_delivers`: this is what a generator does, whatever is refused; and a build in which the
  generator fails asks for nothing more.
-/

namespace Subgraph

open Subgraph.Action

variable {σ : Type} {host : Host σ} {s s' s₁ : σ} {t t₁ t₂ : List Event}

/-! ### Requests for output -/

/-- The requests for output. -/
def outputs (t : List Event) : List Event := t.filter Event.isOutput

/-- The file that a request has written. -/
def Event.written? : Event → Option Artifact
  | .file path text true => some ⟨path, text⟩
  | _ => none

/-- The files that have been written, with their texts. -/
def filesIn (t : List Event) : List Artifact := t.filterMap Event.written?

theorem outputs_append (t₁ t₂ : List Event) : outputs (t₁ ++ t₂) = outputs t₁ ++ outputs t₂ :=
  List.filter_append ..

theorem filesIn_append (t₁ t₂ : List Event) : filesIn (t₁ ++ t₂) = filesIn t₁ ++ filesIn t₂ :=
  List.filterMap_append

theorem outputs_of_quiet (h : ∀ e ∈ t, e.isOutput = false) : outputs t = [] :=
  List.filter_eq_nil_iff.mpr fun e he => by rw [h e he]; exact Bool.false_ne_true

theorem outputs_of_prelude (h : Prelude t) : outputs t = [] :=
  outputs_of_quiet fun e he => (h e he).quiet

/-- Files are written by requests for output. -/
theorem filesIn_outputs (t : List Event) : filesIn (outputs t) = filesIn t := by
  unfold filesIn outputs
  rw [List.filterMap_filter]
  congr 1
  funext e
  cases e <;> rfl

theorem outputs_of_dirRun {path : Path} (h : DirRun host path s s' t) : outputs t = t := by
  cases h <;> rfl

theorem filesIn_of_dirRun {path : Path} (h : DirRun host path s s' t) : filesIn t = [] := by
  cases h <;> rfl

/-- For a file there are no requests but for output. -/
theorem outputs_of_fileRun {path : Path} {text : String} {r : Outcome Unit}
    (h : FileRun host path text s r s' t) : outputs t = t := by
  cases h with
  | noDir => rfl
  | refused dir | written dir =>
      rw [outputs_append, outputs_of_dirRun dir]
      rfl

namespace Generator

variable {g : Generator} {m : Manifest} {l : LoadedAbi}
variable {ls ls₁ ls₂ before rest : List LoadedAbi}
variable {as : List Artifact} {e e' : Error} {out own : List Event}

/-! ### Deliveries and refusals -/

/-- The bindings of some interfaces have been delivered, one after the other: the files, and the
requests for output. -/
inductive Delivered (g : Generator) (host : Host σ) :
    σ → List LoadedAbi → List Artifact → σ → List Event → Prop
  | nil {s : σ} : Delivered g host s [] [] s []
  | cons {s s₁ s' : σ} {l : LoadedAbi} {a : Artifact} {ls : List LoadedAbi} {as : List Artifact}
      {t₁ t₂ : List Event} (render : g.render l = .ok a)
      (file : FileRun host a.path a.text s (.ok ()) s₁ t₁)
      (rest : Delivered g host s₁ ls as s' t₂) :
      Delivered g host s (l :: ls) (a :: as) s' (t₁ ++ t₂)

/-- The bindings of an interface are refused: why, and with which requests for output. -/
inductive Refused (g : Generator) (host : Host σ) (s : σ) (l : LoadedAbi) :
    Error → List Event → Prop
  | noBindings {cause : Error} (bindings : l.interface.bindings = .error cause) :
      Refused g host s l (.generation l.reference.abi l.reference.file cause) []
  | badName {text name : String} {problem : SegmentProblem}
      (bindings : l.interface.bindings = .ok text)
      (bad : AbiReference.badName? (l.reference.names g.options.extension) = some (name, problem)) :
      Refused g host s l (.config (.badName l.reference.owner l.reference.abi name problem)) []
  | noDir {a : Artifact} {dir : Path} {failure : FileFailure} (render : g.render l = .ok a)
      (some : a.path.directory? = some dir) (refused : host.ensureDir s dir = .error failure) :
      Refused g host s l (.write dir failure) [.dir dir false]
  | noFile {a : Artifact} {s₁ : σ} {t : List Event} {failure : FileFailure}
      (render : g.render l = .ok a) (dir : DirRun host a.path s s₁ t)
      (refused : host.write s₁ a.path a.text = .error failure) :
      Refused g host s l (.write a.path failure) (t ++ [.file a.path a.text false])

/-- What comes of delivering the bindings of some interfaces, and the requests made: all have been
delivered, or those before the first that were refused, and the error is about that one. -/
inductive Delivery (g : Generator) (host : Host σ) (s : σ) :
    List LoadedAbi → Outcome (List Artifact) → List Event → Prop
  | all {ls : List LoadedAbi} {as : List Artifact} {s' : σ} {t : List Event}
      (delivered : g.Delivered host s ls as s' (outputs t)) (files : filesIn t = as) :
      Delivery g host s ls (.ok as) t
  | upTo {before : List LoadedAbi} {l : LoadedAbi} (rest : List LoadedAbi) {as : List Artifact}
      {s₁ : σ} {out own t : List Event} {e : Error}
      (delivered : g.Delivered host s before as s₁ out)
      (refused : g.Refused host s₁ l e.innermost own) (requests : outputs t = out ++ own)
      (files : filesIn t = as) : Delivery g host s (before ++ l :: rest) (.error e) t

theorem Delivered.filesIn (h : g.Delivered host s ls as s' out) : Subgraph.filesIn out = as := by
  induction h with
  | nil => rfl
  | @cons s s₁ s' l a ls as t₁ t₂ render file rest ih =>
      have first : Subgraph.filesIn t₁ = [a] := by
        cases file with
        | written dir => rw [filesIn_append, filesIn_of_dirRun dir]; rfl
      rw [filesIn_append, first, ih]
      rfl

theorem Refused.filesIn (h : g.Refused host s l e own) : Subgraph.filesIn own = [] := by
  cases h with
  | noBindings | badName | noDir => rfl
  | noFile render dir => rw [filesIn_append, filesIn_of_dirRun dir]; rfl

/-- What has been written, without what has been told of it. -/
theorem Wrote.delivered (h : g.Wrote host s ls as s' t) :
    g.Delivered host s ls as s' (outputs t) := by
  induction h with
  | nil => exact .nil
  | @cons s s₁ s' l a ls as t₁ t₂ render file rest ih =>
      have requests : outputs (announcement l :: t₁ ++ success a :: t₂) = t₁ ++ outputs t₂ := by
        rw [outputs_append]
        exact congrArg (· ++ outputs t₂) (outputs_of_fileRun file)
      rw [requests]
      exact .cons render file ih
  | @aside s s' ls as e t prelude rest ih =>
      have requests : outputs (e :: t) = outputs t :=
        List.filter_cons_of_neg (by rw [prelude.quiet]; exact Bool.false_ne_true)
      rwa [requests]

/-- Bindings that cannot be made into a file are refused before anything is asked for. -/
theorem refused_of_render (h : g.render l = .error e) : g.Refused host s l e [] := by
  unfold render at h
  rcases hb : l.interface.bindings with cause | text
  · rw [hb] at h
    cases h
    exact .noBindings hb
  · rw [hb] at h
    rcases hp : l.reference.outputPath g.options.outputDir g.options.extension with refusal | path
    · simp only [hp] at h
      cases h
      unfold AbiReference.outputPath at hp
      split at hp <;> cases hp
      exact .badName hb ‹_›
    · simp only [hp] at h
      cases h

theorem Failed.refused (h : g.Failed host s l e s' t) : g.Refused host s l e (outputs t) := by
  cases h with
  | unmade render => exact refused_of_render render
  | @unwritten a e s' t render file =>
      have requests : outputs (announcement l :: t) = t := (outputs_of_fileRun file :)
      rw [requests]
      cases file with
      | noDir some refused => exact .noDir render some refused
      | refused dir refused => exact .noFile render dir refused

theorem Refused.innermost (h : g.Refused host s l e own) : e.innermost = e := by
  cases h <;> rfl

/-- Bindings that have been written before others could not be were delivered before a refusal. -/
theorem Stopped.delivery (h : g.Stopped host s ls e s' t) (frame : Frame) :
    g.Delivery host s ls (.error (.context frame e)) t := by
  cases h with
  | @mk s₁ s' ls l rest as e t₁ t₂ t₃ before failed after =>
      have refused := failed.refused
      have requests : outputs (t₁ ++ t₂ ++ t₃) = outputs t₁ ++ outputs t₂ := by
        rw [outputs_append, outputs_of_prelude after, List.append_nil, outputs_append]
      refine .upTo rest before.delivered ?_ requests ?_
      · rw [Error.innermost_context, refused.innermost]
        exact refused
      · rw [← filesIn_outputs, requests, filesIn_append, before.delivered.filesIn, refused.filesIn,
          List.append_nil]

/-- **Writing bindings delivers them**, up to the first that are refused. -/
theorem Writes.delivery {r : Outcome (List Artifact)} (h : g.Writes host s ls r s' t) :
    g.Delivery host s ls r t := by
  rcases h with ⟨as, rfl, wrote⟩ | ⟨frame, e, rfl, stopped⟩
  · refine .all wrote.delivered ?_
    rw [← filesIn_outputs, wrote.delivered.filesIn]
  · exact stopped.delivery frame

/-! ### Deliveries and refusals exclude each other -/

/-- A file is not both written and refused. -/
theorem Refused.not_written {a : Artifact} (h : g.Refused host s l e own)
    (render : g.render l = .ok a) (file : FileRun host a.path a.text s (.ok ()) s' t) : False := by
  cases file with
  | written dir granted =>
  cases h with
  | noBindings bindings => rw [(eq_of_render render).1] at bindings; cases bindings
  | badName bindings bad =>
      have path := (eq_of_render render).2
      unfold AbiReference.outputPath at path
      rw [bad] at path
      cases path
  | noDir render' some refused =>
      cases render.symm.trans render'
      cases dir with
      | unnamed none => rw [none] at some; cases some
      | made some' made =>
          cases some.symm.trans some'
          cases made.symm.trans refused
  | noFile render' dir' refused =>
      cases render.symm.trans render'
      cases dir.unique dir'
      cases granted.symm.trans refused

/-- Where bindings have been delivered, none of them are refused. -/
theorem Delivered.not_refused {as' : List Artifact} {out' : List Event}
    (h : g.Delivered host s (before ++ l :: rest) as s' out)
    (h₁ : g.Delivered host s before as' s₁ out') : ¬ g.Refused host s₁ l e own := by
  induction h₁ generalizing as out with
  | nil =>
      cases h with
      | cons render file => exact fun refused => refused.not_written render file
  | cons render file rest ih =>
      cases h with
      | cons render' file' rest' =>
          cases render.symm.trans render'
          cases file.unique file'
          exact ih rest'

/-- There is no error just when no bindings are refused. -/
theorem Delivery.isOk_iff {r : Outcome (List Artifact)} (h : g.Delivery host s ls r t) :
    (∃ as, r = .ok as) ↔ ∃ as s' out, g.Delivered host s ls as s' out := by
  cases h with
  | @all ls as s' t delivered => exact ⟨fun _ => ⟨as, s', outputs t, delivered⟩, fun _ => ⟨as, rfl⟩⟩
  | upTo rest before refused =>
      refine ⟨nofun, ?_⟩
      rintro ⟨as, s', out, all⟩
      exact absurd refused (all.not_refused before)

/-! ### The whole -/

/-- Only the requests for output matter. -/
theorem Delivery.of_outputs_eq {r : Outcome (List Artifact)} (h : g.Delivery host s ls r t₁)
    (same : outputs t = outputs t₁) : g.Delivery host s ls r t := by
  have files : Subgraph.filesIn t = Subgraph.filesIn t₁ := by
    rw [← filesIn_outputs, same, filesIn_outputs]
  cases h with
  | all delivered files₁ =>
      rw [← same] at delivered
      exact .all delivered (files.trans files₁)
  | upTo rest delivered refused requests files₁ =>
      exact .upTo rest delivered refused (same.trans requests) (files.trans files₁)

/-- A stage that loads what can be loaded does so, and asks for no output. -/
theorem runs_loadStage_of_loads {title failure step : String} {refs : List AbiReference}
    {r : Outcome (List LoadedAbi)} (loads : List.Forall₂ (g.Loads (host.read s)) refs ls)
    (h : Runs host (stage title failure (refs.mapM (g.loadAbi step))) s r s' t) :
    r = .ok ls ∧ s' = s ∧ outputs t = [] := by
  have between {t₀ : List Event} {p p' : Progress} (quiet : ∀ e ∈ t₀, e.isOutput = false) :
      outputs (.told (.progress p) :: t₀ ++ [.told (.progress p')]) = [] := by
    rw [outputs_append]
    exact congrArg (· ++ []) (outputs_of_quiet quiet)
  rcases runs_stage h with ⟨v, t₀, rfl, h₀, rfl⟩ | ⟨e, t₀, rfl, h₀, rfl⟩
  · obtain ⟨unchanged, loading⟩ := runs_loadAll h₀
    cases loading.eq_of_loads loads
    exact ⟨rfl, unchanged, between loading.quiet⟩
  · cases (runs_loadAll h₀).2.eq_of_loads loads

/-- The interfaces of the data sources come first, and then those of the templates. -/
theorem exists_append_of_loads {read : Path → Except FileFailure String}
    (loads : List.Forall₂ (g.Loads read) (g.references m) ls) :
    ∃ ls₁ ls₂, ls = ls₁ ++ ls₂ ∧ List.Forall₂ (g.Loads read) (g.located m.dataSourceAbis) ls₁ ∧
      List.Forall₂ (g.Loads read) (g.located m.templateAbis) ls₂ := by
  have loads₁ := List.forall₂_take (g.located m.dataSourceAbis).length loads
  have loads₂ := List.forall₂_drop (g.located m.dataSourceAbis).length loads
  rw [references, List.take_left] at loads₁
  rw [references, List.drop_left] at loads₂
  exact ⟨_, _, (List.take_append_drop _ ls).symm, loads₁, loads₂⟩

/-- A generator that can load all interfaces goes on to write. -/
theorem runs_work_of_loads {pace : Pace} {r : Outcome (List Artifact)}
    (loads₁ : List.Forall₂ (g.Loads (host.read s)) (g.located m.dataSourceAbis) ls₁)
    (loads₂ : List.Forall₂ (g.Loads (host.read s)) (g.located m.templateAbis) ls₂)
    (h : Runs host (g.work m pace) s r s' t) :
    ∃ t₁, g.WritesAll host pace s ls₁ ls₂ r s' t₁ ∧ outputs t = outputs t₁ := by
  rcases runs_bind.mp h with ⟨_, s₁, t₁, t₂, h₁, rest, rfl⟩ | ⟨e, -, h₁⟩
  · obtain ⟨he, rfl, quiet₁⟩ := runs_loadStage_of_loads loads₁ h₁
    cases he
    rcases runs_bind.mp rest with ⟨_, s₂, t₃, t₄, h₂, written, rfl⟩ | ⟨e, -, h₂⟩
    · obtain ⟨he, rfl, quiet₂⟩ := runs_loadStage_of_loads loads₂ h₂
      cases he
      obtain ⟨t₅, stages, rfl⟩ := runs_notify_bind.mp written
      refine ⟨t₅, runs_writeStages stages, ?_⟩
      rw [outputs_append, outputs_append, quiet₁, quiet₂]
      rfl
    · cases (runs_loadStage_of_loads loads₂ h₂).1
  · cases (runs_loadStage_of_loads loads₁ h₁).1

/-- **A generator that can load all interfaces delivers their bindings**, up to the first that are
refused. -/
theorem delivery_of_generate {r : Outcome (List Artifact)}
    (loads : List.Forall₂ (g.Loads (host.read s)) (g.references m) ls)
    (h : Runs host (g.generate m) s r s' t) : g.Delivery host s ls r t := by
  obtain ⟨t₀, work, rfl⟩ := runs_of_generate h
  obtain ⟨ls₁, ls₂, rfl, loads₁, loads₂⟩ := exists_append_of_loads loads
  obtain ⟨t₁, writes, same⟩ := runs_work_of_loads loads₁ loads₂ work
  refine writes.inOrder.delivery.of_outputs_eq ?_
  rw [outputs_append, ← same]
  exact List.append_nil (outputs t₀)

end Generator

namespace Build

variable {c : Configuration} {path : Path} {f : Family} {m : Manifest} {g : Generator}

/-- A build whose generator fails asks for nothing more: it fails with the same error after the same
requests, unless its manifest was refused and nothing has been asked for. -/
theorem outputs_of_run {e : Error} {r : Outcome BuildSummary} (began : Began host s path m f)
    (hg : f.generator (c.generation path) = .present g)
    (failed : Runs host (g.generate m) s (.error e) s₁ t₁) (h : Runs host (run c path) s r s' t) :
    r = .error e ∧ outputs t = outputs t₁ ∨
      ∃ e', r = .error e' ∧ e'.kind = .manifest ∧ outputs t = [] := by
  obtain ⟨⟨text, read, parsed⟩, known⟩ := began
  rcases runs_run h with
    ⟨prelude, e', rfl, refusal⟩ | ⟨m', f', report, t₂, t₃, began', p₂, writes, rfl⟩
  · refine .inr ⟨e', rfl, ?_, outputs_of_prelude prelude⟩
    rcases refusal with kind | ⟨text', m', read', parsed', unknown⟩
    · exact kind
    · cases read.symm.trans read'
      cases parsed.symm.trans parsed'
      cases known.symm.trans unknown
  · obtain ⟨⟨text', read', parsed'⟩, known'⟩ := began'
    cases read.symm.trans read'
    cases parsed.symm.trans parsed'
    cases known.symm.trans known'
    have bindings : writeBindings c path f m = g.generate m := by
      unfold writeBindings
      rw [hg]
    refine .inl ?_
    rcases writes with ⟨e', rfl, h₁⟩ | ⟨as, s₂, t₄, t₅, o, h₁, -⟩
    · rw [bindings] at h₁
      cases failed.symm.trans h₁
      refine ⟨rfl, ?_⟩
      rw [outputs_append, outputs_of_prelude p₂]
      rfl
    · rw [bindings] at h₁
      cases failed.symm.trans h₁

end Build

namespace Generator

/-- What a generator does for a manifest whose interfaces have been loaded.

Their bindings are delivered up to the first that are refused; the generator succeeds just when none
are; and a build in which it fails makes no other requests for output, neither for later bindings
nor for the classes of the templates. -/
structure DeliversUntilRefused (g : Generator) (host : Host σ) (s : σ) (m : Manifest)
    (ls : List LoadedAbi) : Prop where
  delivery : g.Delivery host s ls ((g.generate m).run.run host s).value
    ((g.generate m).run.run host s).trace
  isOk_iff : (∃ as, ((g.generate m).run.run host s).value = .ok as) ↔
    ∃ as s' out, g.Delivered host s ls as s' out
  build : ∀ {c path f e}, Build.Began host s path m f →
    f.generator (c.generation path) = .present g → ((g.generate m).run.run host s).value = .error e →
      (Program.run host (Build.run c path).run s).value = .error e ∧
          outputs (Program.run host (Build.run c path).run s).trace =
            outputs ((g.generate m).run.run host s).trace ∨
        ∃ e', (Program.run host (Build.run c path).run s).value = .error e' ∧ e'.kind = .manifest ∧
          outputs (Program.run host (Build.run c path).run s).trace = []

/-- **Bindings are delivered in order, up to the first that are refused.** -/
theorem generate_delivers (host : Host σ) (g : Generator) (m : Manifest) (s : σ)
    (ls : List LoadedAbi) (loads : List.Forall₂ (g.Loads (host.read s)) (g.references m) ls) :
    g.DeliversUntilRefused host s m ls := by
  have h := runs_self host (g.generate m) s
  have delivery := delivery_of_generate loads h
  refine ⟨delivery, delivery.isOk_iff, fun {c path f e} began hg failed => ?_⟩
  have failed' : Runs host (g.generate m) s (.error e) _ _ := failed ▸ h
  exact Build.outputs_of_run began hg failed' (runs_self host (Build.run c path) s)

/-- A host on which there can be no directory for the bindings of the template. -/
def noPool : Host (List (Path × String)) where
  __ := Build.inMemory
  ensureDir files dir :=
    if dir = ⟨"out/templates/Pool"⟩ then .error .alreadyExists else .ok files

theorem generate_delivers_bankAndPool :
    DeliversUntilRefused ⟨.tendermint, { outputDir := ⟨"out"⟩ }, Interface.readDefinitions⟩ noPool
      [(⟨"bank.json"⟩, "[]"), (⟨"pool.json"⟩, "[]")] Build.bankAndPool
      [⟨⟨.dataSource "Bank", "Bank", ⟨"bank.json"⟩⟩, .ofDefinitions "Bank" ⟨"bank.json"⟩ []⟩,
        ⟨⟨.template "Pool", "Pool", ⟨"pool.json"⟩⟩, .ofDefinitions "Pool" ⟨"pool.json"⟩ []⟩] := by
  have parsed : Cosmos.parseEvents "[]" = .ok [] := by decide +kernel
  have made (name : String) (file : Path) : Interface.readDefinitions name file "[]" =
      .ok (.ofDefinitions name file [], .definitionsRead name 0) := by
    unfold Interface.readDefinitions
    rw [parsed]
    rfl
  exact generate_delivers _ _ _ _ _ (.cons ⟨rfl, "[]", _, rfl, made _ _⟩
    (.cons ⟨rfl, "[]", _, rfl, made _ _⟩ .nil))

end Generator

end Subgraph

import Subgraph.Proofs.Bindings
import Subgraph.Proofs.Turns

/-!
# Builds — a build reads before it writes

A build reads and checks a manifest, writes the bindings of its interfaces, and then the file with
the classes of its templates.  What is said here of a build holds at every pace.

* `runs_bindings`: what a build does for the interfaces of a manifest.
* `TemplatesRun`: what it does for the templates.
* `runs_run`: what it does as a whole.
* `run_untouched`: a build that fails over its manifest, the family or an interface file has not
  asked for any output.
-/

namespace Subgraph

open Subgraph.Action

variable {σ : Type} {host : Host σ} {s s' s₁ : σ} {t t₁ t₂ : List Event}

/-- A result of which something is true. -/
theorem exists_of_any {ε α : Type} {r : Except ε α} {p : α → Bool}
    (h : r.toOption.any p = true) : ∃ v, r = .ok v ∧ p v = true := by
  rcases r with e | v
  · cases h
  · exact ⟨v, rfl, h⟩

namespace Build

variable {c : Configuration} {path : Path} {f : Family} {m : Manifest} {pace : Pace}

/-! ### Bindings -/

/-- **The bindings of a manifest** are generated, or the family has none. -/
theorem runs_bindings {r : Outcome (List Artifact)}
    (h : Runs host (writeBindings c path f m pace) s r s' t) :
    (f.generator (c.generation path) = .unsupported ∧ r = .ok [] ∧ s' = s ∧ Prelude t) ∨
      ∃ g, f.generator (c.generation path) = .present g ∧ g.Generates host pace s m r s' t := by
  unfold writeBindings at h
  rcases hg : f.generator (c.generation path) with g | _
  · rw [hg] at h
    have discreet : g.reader.IsDiscreet := (Family.isModest_generator hg).isDiscreet
    exact .inr ⟨g, rfl, Generator.runs_generate discreet h⟩
  · rw [hg] at h
    obtain ⟨t₀, returned, rfl⟩ := runs_notify_bind.mp h
    obtain ⟨rfl, rfl, rfl⟩ := runs_pure.mp returned
    exact .inl ⟨rfl, rfl, rfl, .cons (isPrelude_warn _) prelude_nil⟩

/-! ### Classes of templates -/

/-- The file with the classes of the templates has been written. -/
def success (c : Configuration) : Event :=
  .told (.progress (.step "Write templates to" (templatesPath c).text))

/-- What a build does for the templates of a manifest, after the bindings. -/
inductive TemplatesRun (host : Host σ) (c : Configuration) (f : Family) (m : Manifest) (s : σ) :
    Outcome (Option Artifact) → σ → List Event → Prop
  | none (empty : m.templates = []) : TemplatesRun host c f m s (.ok none) s []
  | written {text : String} {s' : σ} {t₁ t₂ t₃ : List Event} (any : m.templates ≠ [])
      (text_eq : templatesText f m.templates = .ok text) (before : Prelude t₁)
      (file : FileRun host (templatesPath c) text s (.ok ()) s' t₂) (after : Prelude t₃) :
      TemplatesRun host c f m s (.ok (some ⟨templatesPath c, text⟩)) s'
        (t₁ ++ t₂ ++ success c :: t₃)
  | unmade {frame : Frame} {e : Error} {t : List Event} (any : m.templates ≠ [])
      (text_eq : templatesText f m.templates = .error e) (prelude : Prelude t) :
      TemplatesRun host c f m s (.error (.context frame e)) s t
  | unwritten {frame : Frame} {text : String} {e : Error} {s' : σ} {t₁ t₂ t₃ : List Event}
      (any : m.templates ≠ []) (text_eq : templatesText f m.templates = .ok text)
      (before : Prelude t₁) (file : FileRun host (templatesPath c) text s (.error e) s' t₂)
      (after : Prelude t₃) :
      TemplatesRun host c f m s (.error (.context frame e)) s' (t₁ ++ t₂ ++ t₃)

/-- The classes of the templates are made first, and then written. -/
theorem runs_writeTemplates {r : Outcome Artifact}
    (h : Runs host (writeTemplates c f m) s r s' t) :
    (∃ e, r = .error e ∧ templatesText f m.templates = .error e ∧ s' = s ∧ t = []) ∨
      ∃ text, templatesText f m.templates = .ok text ∧
        ((∃ e, r = .error e ∧ FileRun host (templatesPath c) text s (.error e) s' t) ∨
          ∃ t₁, r = .ok ⟨templatesPath c, text⟩ ∧
            FileRun host (templatesPath c) text s (.ok ()) s' t₁ ∧ t = t₁ ++ [success c]) := by
  rcases runs_bind.mp h with ⟨text, s₁, t₁, t₂, made, filed, rfl⟩ | ⟨e, rfl, made⟩
  · -- the text is made, so the file is asked for
    obtain ⟨ht, rfl, rfl⟩ := runs_ofOutcome.mp made
    dsimp only at filed
    refine .inr ⟨text, ht.symm, ?_⟩
    rcases runs_bind.mp filed with ⟨v, s₂, t₁, t₃, hf, told, rfl⟩ | ⟨e, rfl, hf⟩
    · obtain ⟨t₄, returned, rfl⟩ := runs_notify_bind.mp told
      obtain ⟨rfl, rfl, rfl⟩ := runs_pure.mp returned
      exact .inr ⟨t₁, rfl, runs_writeFile hf, rfl⟩
    · exact .inl ⟨e, rfl, runs_writeFile hf⟩
  · obtain ⟨ht, rfl, rfl⟩ := runs_ofOutcome.mp made
    exact .inl ⟨e, rfl, ht.symm, rfl, rfl⟩

/-- **The templates of a manifest** are handled in the ways of `TemplatesRun`. -/
theorem runs_templates {r : Outcome (Option Artifact)}
    (h : Runs host (writeTemplates? c f m) s r s' t) : TemplatesRun host c f m s r s' t := by
  unfold writeTemplates? at h
  rcases ht : m.templates with _ | ⟨template, templates⟩
  · rw [ht] at h
    obtain ⟨rfl, rfl, rfl⟩ := runs_pure.mp h
    exact .none ht
  · have any : m.templates ≠ [] := by rw [ht]; exact List.cons_ne_nil _ _
    have begun : Prelude [.told (.progress (.begin "Generate types for data source templates"))] :=
      .cons (isPrelude_begin _) prelude_nil
    have ended :
        Prelude [.told (.progress (.succeed "Generate types for data source templates"))] :=
      .cons (isPrelude_succeed _) prelude_nil
    rw [ht, List.isEmpty_cons, if_neg Bool.false_ne_true, bind_pure_comp] at h
    rcases runs_map.mp h with ⟨a, rfl, hs⟩ | ⟨e, rfl, hs⟩
    · -- the stage succeeds
      rcases runs_stage hs with ⟨a', t₀, ha, h₀, rfl⟩ | ⟨e, t₀, ha, -⟩
      · cases ha
        rcases runs_writeTemplates h₀ with
          ⟨e, ha, -⟩ | ⟨text, made, ⟨e, ha, -⟩ | ⟨t₁, ha, file, rfl⟩⟩
        · cases ha
        · cases ha
        · cases ha
          rw [List.cons_append, List.append_assoc]
          exact .written any made begun file ended
      · cases ha
    · -- the stage fails, in making the text or in writing it
      rcases runs_stage hs with ⟨a, t₀, ha, -⟩ | ⟨e₀, t₀, he, h₀, rfl⟩
      · cases ha
      · cases he
        rcases runs_writeTemplates h₀ with
          ⟨e, he, made, rfl, rfl⟩ | ⟨text, made, ⟨e, he, file⟩ | ⟨t₁, he, -⟩⟩
        · cases he
          exact .unmade any made (begun.append (.cons (isPrelude_fail _ _) prelude_nil))
        · cases he
          exact .unwritten any made begun file (.cons (isPrelude_fail _ _) prelude_nil)
        · cases he

/-! ### The whole -/

/-- The manifest that a build has read, and its family. -/
structure Began (host : Host σ) (s : σ) (path : Path) (m : Manifest) (f : Family) : Prop where
  manifest : ∃ text, host.read s path = .ok text ∧ Manifest.parse text = .ok m
  family : family m = .ok f

/-- What a build does after the check. -/
def Writes (host : Host σ) (pace : Pace) (s : σ) (c : Configuration) (path : Path) (m : Manifest)
    (f : Family) (report : Report) (r : Outcome BuildSummary) (s' : σ) (t : List Event) : Prop :=
  (∃ e, r = .error e ∧ Runs host (writeBindings c path f m pace) s (.error e) s' t) ∨
    ∃ as s₁ t₁ t₂ o, Runs host (writeBindings c path f m pace) s (.ok as) s₁ t₁ ∧
      TemplatesRun host c f m s₁ o s' t₂ ∧ t = t₁ ++ t₂ ∧
      r = o.map fun a? => ⟨f, as, a?, report⟩

theorem runs_writes {report : Report} {r : Outcome BuildSummary}
    (h : Runs host (do
      let as ← writeBindings c path f m pace
      let a? ← writeTemplates? c f m
      return ⟨f, as, a?, report⟩) s r s' t) : Writes host pace s c path m f report r s' t := by
  rcases runs_bind.mp h with ⟨as, s₁, t₁, t₂, h₁, h₂, rfl⟩ | ⟨e, rfl, h₁⟩
  · rw [bind_pure_comp] at h₂
    refine .inr ⟨as, s₁, t₁, t₂, ?_⟩
    rcases runs_map.mp h₂ with ⟨a?, rfl, h₃⟩ | ⟨e, rfl, h₃⟩
    · exact ⟨.ok a?, h₁, runs_templates h₃, rfl, rfl⟩
    · exact ⟨.error e, h₁, runs_templates h₃, rfl, rfl⟩
  · exact .inl ⟨e, rfl, h₁⟩

/-- A build has been refused before it goes on to write: over its manifest, or because the manifest
has no family. -/
def IsRefusal (host : Host σ) (s : σ) (path : Path) (e : Error) : Prop :=
  e.kind = .manifest ∨ ∃ text m,
    host.read s path = .ok text ∧ Manifest.parse text = .ok m ∧ family m = .error e

/-- **A build fails in a prelude, or it goes on to write** for a manifest that it has read. -/
theorem runs_run {r : Outcome BuildSummary} (h : Runs host (run c path pace) s r s' t) :
    (Prelude t ∧ ∃ e, r = .error e ∧ IsRefusal host s path e) ∨
      ∃ m f report t₁ t₂, Began host s path m f ∧ Prelude t₁ ∧
        Writes host pace s c path m f report r s' t₂ ∧ t = t₁ ++ t₂ := by
  rcases runs_bind.mp h with ⟨m, s₁, t₁, t₂, read, found, rfl⟩ | ⟨e, rfl, read⟩
  · obtain ⟨p₁, hm⟩ := runs_loadManifest read
    -- what follows sees the files as they were at the start
    have unchanged : s₁ = s := read.state_eq fun e he => (p₁ e he).quiet
    subst unchanged
    rcases hm with ⟨text, _, ht, parsed, hm⟩ | ⟨_, hm, -⟩ <;> cases hm
    rcases runs_bind.mp found with ⟨f, s₂, t₃, t₄, hf, told, rfl⟩ | ⟨e, rfl, hf⟩
    · obtain ⟨hfamily, rfl, rfl⟩ := runs_ofOutcome.mp hf
      obtain ⟨t₅, checked, rfl⟩ := runs_notify_bind.mp told
      have begun : (Event.told (.runBegun f m.dataSources.length m.templates.length)).IsPrelude :=
        ⟨rfl, rfl, rfl⟩
      rcases runs_bind.mp checked with ⟨report, s₃, t₆, t₇, valid, writes, rfl⟩ | ⟨e, rfl, valid⟩
      · -- the check passes, and the build goes on to write
        have p₂ := (runs_requireValid valid).1
        have unchanged : s₃ = s₂ := valid.state_eq fun e he => (p₂ e he).quiet
        subst unchanged
        refine .inr ⟨m, f, report, t₁ ++ _ :: t₆, t₇, ⟨⟨text, ht, parsed⟩, hfamily.symm⟩,
          p₁.append (.cons begun p₂), runs_writes writes, ?_⟩
        simp
      · obtain ⟨p₂, kind⟩ := runs_requireValid valid
        exact .inl ⟨p₁.append (.cons begun p₂), e, rfl, .inl (kind e rfl)⟩
    · obtain ⟨unknown, -, rfl⟩ := runs_ofOutcome.mp hf
      exact .inl ⟨p₁.append prelude_nil, e, rfl, .inr ⟨text, m, ht, parsed, unknown.symm⟩⟩
  · obtain ⟨p₁, hm⟩ := runs_loadManifest read
    rcases hm with ⟨_, _, _, _, he⟩ | ⟨_, he, kind⟩ <;> cases he
    exact .inl ⟨p₁, e, rfl, .inl kind⟩

/-! ### Failures before the first output -/

/-- The kinds of failure over a manifest, its family or an interface file. -/
def earlyKinds : List ErrorKind := [.resolution, .capability, .manifest, .load]

/-- What goes wrong with the bindings of an interface is no early failure. -/
theorem not_early {k : ErrorKind} (h : k = .generation ∨ k = .config ∨ k = .write) :
    k ∉ earlyKinds := by
  rcases h with rfl | rfl | rfl <;> decide

/-- A generator that stops while it writes has met no early failure. -/
theorem kind_of_writesAll {g : Generator} {ls ls' : List LoadedAbi} {e : Error}
    (h : g.WritesAll host pace s ls ls' (.error e) s' t) : e.kind ∉ earlyKinds := by
  obtain ⟨frame, e₀, rfl, l, -, fails⟩ := h.failsWith
  exact not_early fails.kind

/-- A family whose bindings can be made has classes for templates, too. -/
theorem templateStyle_of_generator {options : GenerationOptions} {g : Generator}
    (h : f.generator options = .present g) : ∃ style, f.templateStyle = .present style := by
  cases f with
  | ethereum => exact ⟨_, rfl⟩
  | tendermint => exact ⟨_, rfl⟩
  | near => cases h

/-- A build that fails early has a prelude only. -/
theorem prelude_of_early {e : Error} (h : Runs host (run c path pace) s (.error e) s' t)
    (early : e.kind ∈ earlyKinds) : Prelude t := by
  rcases runs_run h with ⟨prelude, -⟩ | ⟨m, f, report, t₁, t₂, -, p₁, writes, rfl⟩
  · exact prelude
  refine p₁.append ?_
  rcases writes with ⟨_, he, bindings⟩ | ⟨as, s₁, t₃, t₄, o, bindings, templates, rfl, ho⟩
  · cases he
    rcases runs_bindings bindings with ⟨-, he, -⟩ | ⟨g, -, generates⟩
    · cases he
    rcases generates with ⟨prelude, -⟩ | ⟨ls, ls', -, -, writes⟩
    · -- an interface cannot be loaded
      exact prelude
    · -- bindings cannot be made or written, which is no early failure
      exact absurd early (kind_of_writesAll writes)
  · cases templates with
    | none => cases ho
    | written => cases ho
    | unmade any text_eq prelude =>
        cases ho
        rcases runs_bindings bindings with ⟨-, -, -, p₃⟩ | ⟨g, hg, -⟩
        · -- the family has no bindings, and its templates are refused before any output
          exact p₃.append prelude
        · -- the family has classes for templates, and those can always be laid out
          obtain ⟨style, hstyle⟩ := templateStyle_of_generator hg
          obtain ⟨text, made⟩ := exists_templatesText hstyle m.templates
          rw [made] at text_eq
          cases text_eq
    | unwritten any text_eq before file after =>
        cases ho
        rw [Error.kind_context, file.kind] at early
        exact absurd early (by decide)

/-- The build of a manifest has asked for no directory and no file, and has changed nothing. -/
def Untouched (host : Host σ) (c : Configuration) (path : Path) (pace : Pace) (s : σ) : Prop :=
  (∀ event ∈ (Program.run host (run c path pace).run s).trace, event.isOutput = false) ∧
    (Program.run host (run c path pace).run s).state = s

/-- **A build that fails over its manifest, the family or an interface file leaves everything as it
was.** -/
theorem run_untouched (host : Host σ) (c : Configuration) (path : Path) (pace : Pace) (s : σ)
    (e : Error) (failed : (Program.run host (run c path pace).run s).value = .error e)
    (early : e.kind ∈ earlyKinds) : Untouched host c path pace s := by
  have h := runs_self host (run c path pace) s
  rw [show ((run c path pace).run.run host s).value = .error e from failed] at h
  have quiet := fun event he => (prelude_of_early h early event he).quiet
  exact ⟨quiet, h.state_eq quiet⟩

/-! ### Files in memory -/

/-- The kind of the error of an outcome. -/
def errorKind? {α : Type} : Outcome α → Option ErrorKind
  | .ok _ => none
  | .error e => some e.kind

theorem exists_of_errorKind? {α : Type} {r : Outcome α} {k : ErrorKind}
    (h : errorKind? r = some k) : ∃ e, r = .error e ∧ e.kind = k := by
  rcases r with e | v
  · exact ⟨e, rfl, Option.some.inj h⟩
  · cases h

/-- A host that keeps files in a list, the one written last first. -/
def inMemory : Host (List (Path × String)) where
  read files path :=
    match files.lookup path with
    | some text => .ok text
    | none => .error .notFound
  isPresent files path := (files.lookup path).isSome
  ensureDir files _ := .ok files
  write files path text := .ok ((path, text) :: files)

/-- A manifest with an interface for a data source and another for a template. -/
def bankAndPool : Manifest where
  dataSources := [{ kind := "tendermint/data", name := "Bank",
                    mapping := { abis := [⟨"Bank", ⟨"bank.json"⟩⟩] } }]
  templates := [{ kind := "tendermint/data", name := "Pool",
                  mapping := { abis := [⟨"Pool", ⟨"pool.json"⟩⟩] } }]

/-- A manifest with a data source whose interface is there, and a template whose is not. -/
def missingAbi : List (Path × String) :=
  [(⟨"bank.json"⟩, "[]"), (⟨"m"⟩, "dataSources:\n" ++
    "- {kind: tendermint/data, name: Bank, mapping: {abis: [{name: Bank, file: bank.json}]}}\n" ++
    "templates:\n" ++
    "- {kind: tendermint/data, name: Pool, mapping: {abis: [{name: Pool, file: pool.json}]}}\n")]

/-- A manifest of a family that has no classes for templates. -/
def nearTemplate : List (Path × String) :=
  [(⟨"m"⟩, "dataSources: []\ntemplates:\n- {kind: near, name: Pool, mapping: {abis: []}}\n")]

theorem run_untouched_missingAbi :
    Untouched inMemory {} ⟨"m"⟩ [] missingAbi ∧
      Untouched inMemory { skipValidation := true } ⟨"m"⟩ [[1]] nearTemplate := by
  have load : errorKind? (Program.run inMemory (run {} ⟨"m"⟩).run missingAbi).value =
      some .load := by decide +kernel
  have capability : errorKind? (Program.run inMemory
      (run { skipValidation := true } ⟨"m"⟩ [[1]]).run nearTemplate).value = some .capability := by
    decide +kernel
  obtain ⟨e, failed, kind⟩ := exists_of_errorKind? load
  obtain ⟨e', failed', kind'⟩ := exists_of_errorKind? capability
  refine ⟨run_untouched _ _ _ _ _ e failed ?_, run_untouched _ _ _ _ _ e' failed' ?_⟩
  · rw [kind]
    decide
  · rw [kind']
    decide

end Build

end Subgraph

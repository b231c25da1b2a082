import Subgraph.Proofs.Rules
import Subgraph.Proofs.Tasks

/-!
# CheckedNames — what the check of a manifest promises to what follows

The check of a manifest has rules about names, and the paths of bindings have rules of their own.
They were written apart, and they agree: a name that passes the check is refused by no path.

* `Manifest.isPlain_of_errors`: a manifest without errors has plain names, and the interfaces of an
  entry have different ones.
* `Manifest.exists_outputPath`: then all its bindings have a path.
* `writes_of_run`: a build of a manifest that can be read fails with the verdict on it, or goes on
  to write.
* `run_checked`: it succeeds, or it fails over an interface file, in making bindings or in writing.
-/

namespace Subgraph

open Subgraph.Action

/-! ### Names without issues -/

namespace Entry

/-- An entry has a plain name, and so have its interfaces; these have different names. -/
structure IsPlain (e : Entry) : Prop where
  name : IsSegment e.name
  abis : ∀ abi ∈ e.mapping.abis, IsSegment abi.name
  distinct : (e.mapping.abis.map AbiEntry.name).Nodup

theorem Obeys.isPlain {f : Family} {options : BuildOptions} {isTemplate : Bool} {e : Entry}
    (h : e.Obeys f options isTemplate) : e.IsPlain := ⟨h.name, h.abis, h.distinct⟩

end Entry

namespace Manifest

variable {f : Family} {options : BuildOptions} {m : Manifest}

/-- **A manifest without errors** has plain names. -/
theorem isPlain_of_errors (h : (m.validate f options).errors = []) :
    ∀ e ∈ m.dataSources ++ m.templates, e.IsPlain := by
  obtain ⟨-, dataSources, templates⟩ := harmless_validate_iff.mp (harmless_iff_errors.mpr h)
  exact List.forall_mem_append.mpr
    ⟨fun e he => (dataSources e he).isPlain, fun e he => (templates e he).isPlain⟩

/-- A reference of a manifest belongs to an interface of one of its entries. -/
theorem exists_of_mem_abis {r : AbiReference} (h : r ∈ m.dataSourceAbis ++ m.templateAbis) :
    ∃ e ∈ m.dataSources ++ m.templates, r.owner.name = e.name ∧
      ∃ abi ∈ e.mapping.abis, r.abi = abi.name := by
  rcases List.mem_append.mp h with h | h
  · obtain ⟨e, he, hr⟩ := List.mem_flatMap.mp h
    obtain ⟨abi, ha, rfl⟩ := List.mem_map.mp hr
    exact ⟨e, List.mem_append_left _ he, rfl, abi, ha, rfl⟩
  · obtain ⟨e, he, hr⟩ := List.mem_flatMap.mp h
    obtain ⟨abi, ha, rfl⟩ := List.mem_map.mp hr
    exact ⟨e, List.mem_append_right _ he, rfl, abi, ha, rfl⟩

/-! ### Paths for plain names -/

/-- A plain name with an extension behind it is plain. -/
theorem isSegment_fileName {name extension : String} (h : IsSegment name)
    (valid : Configuration.isExtension extension = true) :
    IsSegment (name ++ "." ++ extension) := by
  have chars : (name ++ "." ++ extension).toList = name.toList ++ '.' :: extension.toList := by
    simp
  unfold Configuration.isExtension at valid
  rw [Bool.and_eq_true, Bool.not_eq_true', List.all_eq_true] at valid
  have some : extension.toList ≠ [] := fun he => by
    have empty : extension = "" := String.toList_inj.mp he
    rw [empty] at valid
    cases valid.1
  obtain ⟨text, slash, backslash, -, -⟩ := h
  have free (x : Char) (hx : x ∉ name.toList) (hd : x ≠ '.')
      (he : (x != '.' && x != '/' && x != '\\') = false) :
      x ∉ (name ++ "." ++ extension).toList := by
    rw [chars]
    intro hm
    rcases List.mem_append.mp hm with hm | hm
    · exact hx hm
    · rcases List.mem_cons.mp hm with hm | hm
      · exact hd hm
      · have named := valid.2 x hm
        rw [he] at named
        cases named
  -- there are at least three characters, so it is none of the short names
  have long : 3 ≤ (name ++ "." ++ extension).toList.length := by
    have l₁ := List.length_pos_iff.mpr fun h => text (String.toList_inj.mp h)
    have l₂ := List.length_pos_iff.mpr some
    rw [chars, List.length_append, List.length_cons]
    omega
  have ne (t : String) (short : t.toList.length < 3) : name ++ "." ++ extension ≠ t := by
    rintro rfl
    omega
  exact ⟨ne "" (by decide), free '/' slash (by decide) (by decide),
    free '\\' backslash (by decide) (by decide), ne "." (by decide), ne ".." (by decide)⟩

/-- Bindings with plain names have a path. -/
theorem exists_outputPath_of_isSegment {r : AbiReference} {extension : String}
    (owner : IsSegment r.owner.name) (abi : IsSegment r.abi)
    (valid : Configuration.isExtension extension = true) (root : Path) :
    ∃ q, r.outputPath root extension = .ok q := by
  refine ⟨_, outputPath_of_isSegment (List.forall_mem_cons.mpr ⟨owner, ?_⟩) root⟩
  exact List.forall_mem_cons.mpr
    ⟨abi, List.forall_mem_singleton.mpr (isSegment_fileName abi valid)⟩

/-- **All bindings of a manifest without errors have a path.** -/
theorem exists_outputPath (h : (m.validate f options).errors = []) {extension : String}
    (valid : Configuration.isExtension extension = true) (root : Path) :
    ∀ r ∈ m.dataSourceAbis ++ m.templateAbis, ∃ q, r.outputPath root extension = .ok q := by
  intro r hr
  obtain ⟨e, he, owner, abi, ha, named⟩ := exists_of_mem_abis hr
  have plain := isPlain_of_errors h e he
  refine exists_outputPath_of_isSegment ?_ ?_ valid root
  · rw [owner]
    exact plain.name
  · rw [named]
    exact plain.abis abi ha

end Manifest

variable {σ : Type} {host : Host σ} {s s' s₁ : σ} {t t₁ t₂ : List Event}

/-! ### Bindings with a path -/

namespace Generator

variable {g : Generator} {m : Manifest}

theorem references_eq : g.references m = g.located (m.dataSourceAbis ++ m.templateAbis) :=
  List.map_append.symm

/-- A reference of a generator is one of the manifest, as seen from the source directory. -/
theorem exists_of_mem_references {r : AbiReference} (h : r ∈ g.references m) :
    ∃ r' ∈ m.dataSourceAbis ++ m.templateAbis, r'.seenFrom g.options.sourceDir? = r := by
  rw [references_eq] at h
  exact List.mem_map.mp h

/-- Where all bindings of a manifest have a path, those that are loaded have one. -/
theorem exists_outputPath_of_loads {read : Path → Except FileFailure String} {ls : List LoadedAbi}
    (loads : List.Forall₂ (g.Loads read) (g.references m) ls)
    (paths : ∀ r ∈ m.dataSourceAbis ++ m.templateAbis,
      ∃ q, r.outputPath g.options.outputDir g.options.extension = .ok q) :
    ∀ l ∈ ls, ∃ q, l.reference.outputPath g.options.outputDir g.options.extension = .ok q := by
  intro l hl
  obtain ⟨r, -, load, hr⟩ := exists_mem_zip loads hl
  obtain ⟨r, hr', rfl⟩ := exists_of_mem_references hr
  rw [load.reference]
  -- the file of the interface has no part in the path of the bindings
  exact paths r hr'

/-- Bindings that have a path fail because the interface has none, or in writing. -/
theorem kind_of_failsWith {l : LoadedAbi} {e : Error} (h : g.FailsWith host l e)
    (path : ∃ q, l.reference.outputPath g.options.outputDir g.options.extension = .ok q) :
    e.kind = .generation ∨ e.kind = .write := by
  cases h with
  | noDir | noFile => exact .inr rfl
  | unmade failed =>
      obtain ⟨q, hq⟩ := path
      unfold render at failed
      rcases hb : l.interface.bindings with cause | text
      · rw [hb] at failed
        cases failed
        exact .inl rfl
      · rw [hb] at failed
        simp only [hq] at failed
        cases failed

end Generator

/-! ### Builds -/

namespace Build

variable {c : Configuration} {path : Path} {f : Family} {m : Manifest} {pace : Pace}

/-- A manifest that can be read is read. -/
theorem eq_of_loadManifest {text : String} (read : host.read s path = .ok text)
    (parsed : Manifest.parse text = .ok m) {r : Outcome Manifest}
    (h : Runs host (loadManifest path) s r s' t) : r = .ok m := by
  have found : ∀ {r₀ t₀}, Runs host (readManifest path) s r₀ s' t₀ → r₀ = .ok m := by
    intro r₀ t₀ h
    rcases runs_bind.mp h with ⟨answer, s₁, t₁, t₂, hr, hm, rfl⟩ | ⟨e, -, hr⟩
    · obtain ⟨hv, rfl, rfl⟩ := runs_readText.mp hr
      cases hv
      rw [read] at hm
      exact (runs_ofOutcome.mp hm).1.trans parsed
    · cases (runs_readText.mp hr).1
  rcases runs_stage h with ⟨v, t₀, rfl, h₀, -⟩ | ⟨e, t₀, rfl, h₀, -⟩
  · exact found h₀
  · cases found h₀

/-- What comes of the check of a manifest in a build. -/
def verdict (c : Configuration) (path : Path) (f : Family) (m : Manifest) : Outcome Report :=
  if c.skipValidation then .ok {}
  else (m.validate f (c.validation path)).outcome.within
    (.stage "Failed to validate subgraph manifest")

/-- **The check of a manifest** sees nothing of the host. -/
theorem eq_of_requireValid {r : Outcome Report}
    (h : Runs host (requireValid c path f m) s r s' t) : r = verdict c path f m := by
  unfold requireValid at h
  unfold verdict
  split at h
  · next skip =>
      rw [if_pos skip]
      rcases runs_bind.mp h with ⟨v, s₁, t₁, t₂, hw, hp, rfl⟩ | ⟨e, -, hw⟩
      · exact (runs_pure.mp hp).1
      · cases (runs_forM_notify hw).1
  · next checked =>
      rw [if_neg checked]
      rcases runs_bind.mp h with ⟨report, s₁, t₁, t₂, hv, hs, rfl⟩ | ⟨e, -, hv⟩
      · cases (runs_validate hv).2
        rcases runs_stage hs with ⟨v, t₀, rfl, h₀, -⟩ | ⟨e, t₀, rfl, h₀, -⟩
        · rw [← (runs_ofOutcome.mp h₀).1]
          rfl
        · rw [← (runs_ofOutcome.mp h₀).1]
          rfl
      · cases (runs_validate hv).2

theorem exists_verdict (valid : (m.validate f (c.validation path)).errors = []) :
    ∃ report, verdict c path f m = .ok report := by
  unfold verdict
  split
  · exact ⟨_, rfl⟩
  · rw [Report.outcome_eq_ok_iff.mpr ⟨valid, rfl⟩]
    exact ⟨_, rfl⟩

/-- **A build of a manifest that can be read** fails with the verdict on it, or goes on to write. -/
theorem writes_of_run (began : Began host s path m f) {r : Outcome BuildSummary}
    (h : Runs host (run c path pace) s r s' t) :
    (∃ e, verdict c path f m = .error e ∧ r = .error e) ∨
      ∃ report t₁ t₂, verdict c path f m = .ok report ∧ Prelude t₁ ∧
        Writes host pace s c path m f report r s' t₂ ∧ t = t₁ ++ t₂ := by
  obtain ⟨⟨text, read, parsed⟩, known⟩ := began
  rcases runs_bind.mp h with ⟨m', s₁, t₁, t₂, loaded, found, rfl⟩ | ⟨e, -, loaded⟩
  · cases eq_of_loadManifest read parsed loaded
    have p₁ := (runs_loadManifest loaded).1
    cases loaded.state_eq fun e he => (p₁ e he).quiet
    rcases runs_bind.mp found with ⟨f', s₂, t₃, t₄, hf, told, rfl⟩ | ⟨e, -, hf⟩
    · obtain ⟨hfamily, rfl, rfl⟩ := runs_ofOutcome.mp hf
      cases hfamily.trans known
      obtain ⟨t₅, checked, rfl⟩ := runs_notify_bind.mp told
      rcases runs_bind.mp checked with ⟨report, s₃, t₆, t₇, passed, writes, rfl⟩ | ⟨e, rfl, failed⟩
      · have p₂ := (runs_requireValid passed).1
        cases passed.state_eq fun e he => (p₂ e he).quiet
        have begun : (Event.told (.runBegun f m.dataSources.length m.templates.length)).IsPrelude :=
          ⟨rfl, rfl, rfl⟩
        refine .inr ⟨report, t₁ ++ _ :: t₆, t₇, (eq_of_requireValid passed).symm,
          p₁.append (.cons begun p₂), runs_writes writes, ?_⟩
        simp
      · exact .inl ⟨e, (eq_of_requireValid failed).symm, rfl⟩
    · cases (runs_ofOutcome.mp hf).1.trans known
  · cases eq_of_loadManifest read parsed loaded

/-- The kinds of failure that are left to a build once its manifest has been checked: over an
interface file, in making bindings and in writing. -/
def lateKinds : List ErrorKind := [.load, .generation, .write]

/-- What a generator does for bindings that all have a path fails late or not at all. -/
theorem kind_of_generates {g : Generator}
    (paths : ∀ r ∈ m.dataSourceAbis ++ m.templateAbis,
      ∃ q, r.outputPath g.options.outputDir g.options.extension = .ok q)
    {e : Error} (h : g.Generates host pace s m (.error e) s' t) : e.kind ∈ lateKinds := by
  rcases h with ⟨-, _, he, kind⟩ | ⟨ls, ls', loads, loads', writes⟩
  · cases he
    rw [kind]
    decide
  · obtain ⟨frame, e₀, rfl, l, hl, fails⟩ := writes.failsWith
    have path := Generator.exists_outputPath_of_loads (List.rel_append loads loads') paths l hl
    rw [Error.kind_context]
    rcases Generator.kind_of_failsWith fails path with kind | kind <;> rw [kind] <;> decide

/-- The templates of a family that has bindings fail late or not at all. -/
theorem kind_of_templates {options : GenerationOptions} {g : Generator}
    (hg : f.generator options = .present g) {e : Error}
    (h : TemplatesRun host c f m s (.error e) s' t) : e.kind ∈ lateKinds := by
  cases h with
  | unmade any failed prelude =>
      -- the family has classes for templates, and those can always be laid out
      obtain ⟨style, hstyle⟩ := templateStyle_of_generator hg
      obtain ⟨text, made⟩ := exists_templatesText hstyle m.templates
      cases made.symm.trans failed
  | unwritten any made before file after =>
      rw [Error.kind_context, file.kind]
      decide

theorem exists_generator (typed : f = .ethereum ∨ f = .tendermint) (options : GenerationOptions) :
    ∃ g, f.generator options = .present g := by
  rcases typed with rfl | rfl <;> exact ⟨_, rfl⟩

/-- The check of a manifest keeps its promise: all bindings have a path, and a build fails late or
not at all. -/
structure PassesCheck (host : Host σ) (c : Configuration) (path : Path) (pace : Pace) (s : σ)
    (m : Manifest) : Prop where
  paths : ∀ r ∈ m.dataSourceAbis ++ m.templateAbis,
    ∃ q, r.outputPath c.outputDir c.extension = .ok q
  late : (∃ summary, (Program.run host (run c path pace).run s).value = .ok summary) ∨
    ∃ e, (Program.run host (run c path pace).run s).value = .error e ∧ e.kind ∈ lateKinds

/-- **A manifest that passes the check is refused by nothing that follows.**

The rules of the check and those of the paths agree on every name, so what is left to go wrong is an
interface file, the making of bindings, or the writing of a file.  A build that skips the check is
no exception, as long as the manifest would have passed it. -/
theorem run_checked (host : Host σ) (c : Configuration) (path : Path) (pace : Pace) (s : σ)
    (m : Manifest) (f : Family) (began : Began host s path m f)
    (typed : f = .ethereum ∨ f = .tendermint)
    (valid : (m.validate f (c.validation path)).errors = [])
    (extension : Configuration.isExtension c.extension = true) :
    PassesCheck host c path pace s m := by
  have paths := Manifest.exists_outputPath valid extension c.outputDir
  obtain ⟨g, hg⟩ := exists_generator typed (c.generation path)
  refine ⟨paths, ?_⟩
  rcases hv : (Program.run host (run c path pace).run s).value with e | summary
  · refine .inr ⟨e, rfl, ?_⟩
    have h := runs_self host (run c path pace) s
    rw [show ((run c path pace).run.run host s).value = .error e from hv] at h
    obtain ⟨report, passed⟩ := exists_verdict valid
    rcases writes_of_run began h with ⟨_, failed, -⟩ | ⟨_, t₁, t₂, -, -, writes, -⟩
    · cases passed.symm.trans failed
    rcases writes with ⟨_, he, bindings⟩ | ⟨as, s₁, t₃, t₄, o, -, templates, -, ho⟩
    · cases he
      rcases runs_bindings bindings with ⟨-, he, -⟩ | ⟨g', hg', generates⟩
      · cases he
      · cases hg.symm.trans hg'
        refine kind_of_generates ?_ generates
        rw [(Family.generator_eq_present hg).1]
        exact paths
    · rcases o with e | a?
      · cases ho
        exact kind_of_templates hg templates
      · cases ho
  · exact .inl ⟨summary, rfl⟩

/-- A manifest belongs to a family, which finds no errors in it. -/
def isValid (f : Family) (options : BuildOptions) (m : Manifest) : Bool :=
  (family m).toOption == some f && (m.validate f options).errors.isEmpty

theorem isValid_iff {options : BuildOptions} : isValid f options m = true ↔
    family m = .ok f ∧ (m.validate f options).errors = [] := by
  unfold isValid
  rw [Bool.and_eq_true, beq_iff_eq, List.isEmpty_iff]
  refine and_congr_left' ?_
  rcases family m with e | f'
  · exact iff_of_false nofun nofun
  · simp [Except.toOption]

/-- A manifest whose names are plain, but look as if they were not. -/
def dottedNames : String := "dataSources:\n" ++
  "- {kind: tendermint/data, name: ..., mapping: {abis: [{name: ..., file: bank.json}]}}\n" ++
  "templates:\n" ++
  "- kind: tendermint/data\n  name: ' '\n  mapping: {abis: [{name: .ts, file: pool.json}]}\n"

theorem run_checked_dottedNames : ∃ m, Manifest.parse dottedNames = .ok m ∧
    PassesCheck inMemory {} ⟨"m"⟩ [[1]] [(⟨"bank.json"⟩, "[]"), (⟨"m"⟩, dottedNames)] m := by
  have readable : (Manifest.parse dottedNames).toOption.any
      (isValid .tendermint (Configuration.validation {} ⟨"m"⟩)) = true := by decide +kernel
  obtain ⟨m, parsed, passed⟩ := exists_of_any readable
  obtain ⟨known, valid⟩ := isValid_iff.mp passed
  exact ⟨m, parsed, run_checked _ _ _ _ _ m .tendermint ⟨⟨_, rfl, parsed⟩, known⟩ (.inr rfl) valid
    (by decide)⟩

end Build

end Subgraph

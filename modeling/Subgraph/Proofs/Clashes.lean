import Subgraph.Proofs.Deliveries
import Subgraph.Proofs.Obstacles

/-!
# Clashes — files where others need a directory

A build writes its files below its output directory, and makes directories for them.  On a host that
refuses nothing else, the only thing that can be in the way of a file is another file of the same
build, and the names in the manifest say whether there is one.

* `IsPrepared`: a build lacks nothing; `Ends` says how it may end.
* `ends_of_templates`, `ends_of_prepared`: it ends in these ways.
* `run_of_prepared`: it succeeds just when the manifest is free of clashes.
* `not_run_sameNames`: there are manifests that are not.
-/

namespace Subgraph

open Subgraph.Action

variable {σ : Type} {host : Host σ} {view : TreeView σ} {s s' s₁ s₂ : σ} {t : List Event}

/-! ### Interface files that are there -/

/-- The path of bindings is below the directory of all bindings. -/
theorem AbiReference.isBelow_of_outputPath {r : AbiReference} {root q : Path} {extension : String}
    (h : r.outputPath root extension = .ok q) : q.IsBelow root (r.outputNames extension) := by
  obtain ⟨plain, ends⟩ := extends_outputPath h
  exact ⟨List.append_ne_nil_of_right_ne_nil _ (List.cons_ne_nil _ _), plain, ends⟩

namespace Generator

variable {g : Generator} {c : Configuration} {path : Path} {m : Manifest} {l : LoadedAbi}
variable {ls : List LoadedAbi} {as : List Artifact} {a : Artifact}

/-- Bindings with a text and a path make a file. -/
theorem render_of_bindings {text : String} {q : Path} (bindings : l.interface.bindings = .ok text)
    (place : l.reference.outputPath g.options.outputDir g.options.extension = .ok q) :
    g.render l = .ok ⟨q, text⟩ := by
  unfold render
  rw [bindings]
  simp only [Except.mapError, bind, Except.bind, place]
  rfl

/-- The file of a reference of a manifest is below the output directory. -/
theorem isBelow_of_render (options : g.options = c.generation path)
    (loads : List.Forall₂ (g.Loads (host.read s)) (g.references m) ls) (hl : l ∈ ls)
    (render : g.render l = .ok a) :
    ∃ x ∈ m.outputNames c.extension, a.path.IsBelow c.outputDir x := by
  obtain ⟨r, -, load, hr⟩ := exists_mem_zip loads hl
  obtain ⟨r, hr', rfl⟩ := exists_of_mem_references hr
  have place := (eq_of_render render).2
  rw [load.reference, options] at place
  exact ⟨_, List.mem_append_left _ (List.mem_map_of_mem hr'),
    AbiReference.isBelow_of_outputPath place⟩

end Generator

namespace Build

variable {c : Configuration} {path : Path} {f : Family} {m : Manifest} {g : Generator} {pace : Pace}

/-- All interface files of a manifest can be read, and bindings can be made of them. -/
def IsLoadable (host : Host σ) (s : σ) (c : Configuration) (path : Path) (f : Family)
    (m : Manifest) : Prop :=
  ∀ r ∈ m.dataSourceAbis ++ m.templateAbis, ∀ reader, f.interfaceReader = .present reader →
    ∃ text i notice bindings, host.read s (r.file.seenFrom (c.sourceDirFor path)) = .ok text ∧
      reader r.abi (r.file.seenFrom (c.sourceDirFor path)) text = .ok (i, notice) ∧
        i.bindings = .ok bindings

/-- Interface files that are there are loaded. -/
theorem IsLoadable.exists_loads (h : IsLoadable host s c path f m)
    (hg : f.generator (c.generation path) = .present g) :
    ∃ ls, List.Forall₂ (g.Loads (host.read s)) (g.references m) ls ∧
      ∀ l ∈ ls, ∃ text, l.interface.bindings = .ok text := by
  obtain ⟨options, -, reads⟩ := Family.generator_eq_present hg
  unfold IsLoadable at h
  rw [Generator.references_eq, Generator.located, options]
  revert h
  induction m.dataSourceAbis ++ m.templateAbis with
  | nil => exact fun _ => ⟨[], .nil, nofun⟩
  | cons r refs ih =>
      intro h
      obtain ⟨first, others⟩ := List.forall_mem_cons.mp h
      obtain ⟨text, i, notice, bindings, read, made, bound⟩ := first g.reader reads
      obtain ⟨ls, loads, all⟩ := ih others
      refine ⟨⟨r.seenFrom (c.generation path).sourceDir?, i⟩ :: ls, .cons ?_ loads,
        List.forall_mem_cons.mpr ⟨⟨bindings, bound⟩, all⟩⟩
      exact ⟨rfl, text, notice, read, made⟩

/-! ### Builds that lack nothing -/

/-- A build lacks nothing: its manifest has no errors and a family with bindings, its interface
files are there, and its output directory is empty. -/
structure IsPrepared (host : Host σ) (view : TreeView σ) (c : Configuration) (path : Path) (s : σ)
    (m : Manifest) (f : Family) : Prop where
  sound : view.Sound s
  began : Began host s path m f
  typed : f = .ethereum ∨ f = .tendermint
  valid : (m.validate f (c.validation path)).errors = []
  loadable : IsLoadable host s c path f m
  extension : Configuration.isExtension c.extension = true
  output : IsEmptyOutput view c s

/-- How a build ends that lacks nothing: its files are there, one for each of the names that lead to
files of the manifest, or one of them was refused where some had been built. -/
inductive Ends (host : Host σ) (view : TreeView σ) (c : Configuration) (s : σ) (m : Manifest) :
    Outcome BuildSummary → Prop
  | done {summary : BuildSummary}
      (files : List.Forall₂ (fun a x => a.path.IsBelow c.outputDir x)
        (summary.artifacts ++ summary.templates?.toList) (m.outputNames c.extension))
      (there : ∃ s', ∀ a ∈ summary.artifacts ++ summary.templates?.toList,
        a ∈ view.housedIn s' ∧ a ∈ view.filedIn s') : Ends host view c s m (.ok summary)
  | blocked {p : Path} {x : List String} {s₁ : σ} {e : Error}
      (built : Built view c (m.outputNames c.extension) s s₁) (own : x ∈ m.outputNames c.extension)
      (below : p.IsBelow c.outputDir x) (refused : IsRefused host view s₁ p)
      (kind : e.kind = .write) : Ends host view c s m (.error e)

/-- A build that can load all interfaces goes on to write their bindings. -/
theorem writesAll_of_loads {ls₁ ls₂ : List LoadedAbi} {r : Outcome (List Artifact)}
    (hg : f.generator (c.generation path) = .present g)
    (loads₁ : List.Forall₂ (g.Loads (host.read s)) (g.located m.dataSourceAbis) ls₁)
    (loads₂ : List.Forall₂ (g.Loads (host.read s)) (g.located m.templateAbis) ls₂)
    (h : Runs host (writeBindings c path f m pace) s r s' t) :
    ∃ t₁, g.WritesAll host pace s ls₁ ls₂ r s' t₁ := by
  unfold writeBindings at h
  rw [hg] at h
  obtain ⟨t₀, work, -⟩ := Generator.runs_of_generate h
  obtain ⟨t₁, writes, -⟩ := Generator.runs_work_of_loads loads₁ loads₂ work
  exact ⟨t₁, writes⟩

/-- **The bindings of a build that lacks nothing** are built, up to those that are refused. -/
theorem construction_of_writesAll {names : List (List String)} {ls₁ ls₂ : List LoadedAbi}
    {r : Outcome (List Artifact)} (keeps : host.Keeps view) (named : view.IsNamed)
    (sound : view.Sound s) (own : ∀ l ∈ ls₁ ++ ls₂, IsOwned g c names l)
    (bound : ∀ l ∈ ls₁ ++ ls₂, ∃ a, g.render l = .ok a)
    (h : g.WritesAll host pace s ls₁ ls₂ r s' t) :
    Construction g host view c names s (ls₁ ++ ls₂) r s' := by
  obtain ⟨own₁, own₂⟩ := List.forall_mem_append.mp own
  obtain ⟨bound₁, bound₂⟩ := List.forall_mem_append.mp bound
  -- the files of data sources that have been written are of the build
  have below {before : List LoadedAbi} {as : List Artifact} (sub : ∀ l ∈ before, l ∈ ls₁)
      (rendered : List.Forall₂ (fun l a => g.render l = .ok a) before as) :
      AreBelow c names as := fun a ha => by
    obtain ⟨l, -, render, hl⟩ := Generator.exists_mem_zip rendered ha
    exact own₁ l (sub l hl) a render
  cases h with
  | stopped first =>
      obtain ⟨rest, before, failed, -⟩ := first
      have hl {l : LoadedAbi} {before : List LoadedAbi} : l ∈ before ++ l :: rest :=
        List.mem_append_right _ List.mem_cons_self
      obtain ⟨built, -⟩ := built_of_wrote keeps named sound
        (below (fun _ => List.mem_append_left _) before.rendered) before
      cases failed with
      | unmade render =>
          obtain ⟨a, made⟩ := bound₁ _ hl
          cases made.symm.trans render
      | unwritten render file =>
          obtain ⟨x, hx, place⟩ := own₁ _ hl _ render
          obtain ⟨s₂, built', refused⟩ := exists_isRefused keeps named built.sound hx place file
          refine .upTo (List.mem_append_left _ hl) render (built.trans built') refused ?_
          rw [Error.kind_context, file.kind]
  | written first rest =>
      obtain ⟨built, there⟩ := built_of_wrote keeps named sound
        (below (fun _ => id) first.rendered) first
      cases construction_of_writeTogether keeps named own₂ built.sound bound₂ rest with
      | all rendered built' there' =>
          refine .all (List.rel_append first.rendered rendered) (built.trans built')
            (List.forall_mem_append.mpr ⟨fun a ha => ?_, there'⟩)
          exact ⟨built'.lasts.housedIn_subset (there a ha).1,
            built'.lasts.filedIn_subset (there a ha).2⟩
  | failed first rest =>
      obtain ⟨built, -⟩ := built_of_wrote keeps named sound
        (below (fun _ => id) first.rendered) first
      cases construction_of_writeTogether keeps named own₂ built.sound bound₂ rest with
      | upTo mem render built' refused kind =>
          exact .upTo (List.mem_append_right _ mem) render (built.trans built') refused kind

/-- The files of the bindings of a manifest, in order. -/
theorem forall₂_isBelow {ls : List LoadedAbi} {as : List Artifact}
    (options : g.options = c.generation path)
    (loads : List.Forall₂ (g.Loads (host.read s)) (g.references m) ls)
    (rendered : List.Forall₂ (fun l a => g.render l = .ok a) ls as) :
    List.Forall₂ (fun a x => a.path.IsBelow c.outputDir x) as
      ((m.dataSourceAbis ++ m.templateAbis).map (·.outputNames c.extension)) := by
  rw [Generator.references_eq] at loads
  have bindings := forall₂_isBindings options loads rendered
  exact List.forall₂_map_right_iff.mpr
    (bindings.flip.imp fun _ _ h => AbiReference.isBelow_of_outputPath h.place)

/-- The classes of the templates, after the bindings of a build that lacks nothing. -/
theorem ends_of_templates {as : List Artifact} {o : Outcome (Option Artifact)} {report : Report}
    (keeps : host.Keeps view) (named : view.IsNamed)
    (extension : Configuration.isExtension c.extension = true)
    (hg : f.generator (c.generation path) = .present g)
    (files : List.Forall₂ (fun a x => a.path.IsBelow c.outputDir x) as
      ((m.dataSourceAbis ++ m.templateAbis).map (·.outputNames c.extension)))
    (built : Built view c (m.outputNames c.extension) s s₁)
    (there : ∀ a ∈ as, a ∈ view.housedIn s₁ ∧ a ∈ view.filedIn s₁)
    (h : TemplatesRun host c f m s₁ o s' t) :
    Ends host view c s m (o.map fun a? => ⟨f, as, a?, report⟩) := by
  have all (any : m.templates ≠ []) : m.outputNames c.extension =
      (m.dataSourceAbis ++ m.templateAbis).map (·.outputNames c.extension) ++
        [["templates." ++ c.extension]] := by
    unfold Manifest.outputNames
    rw [if_neg any]
  cases h with
  | none empty =>
      refine .done ?_ ⟨s', ?_⟩
      · unfold Manifest.outputNames
        rw [if_pos empty]
        exact List.rel_append files .nil
      · exact List.forall_mem_append.mpr ⟨there, nofun⟩
  | written any text_eq before file =>
      obtain ⟨-, laid⟩ := TreeView.laid_of_fileRun keeps named built.sound file
      refine .done ?_ ⟨s', List.forall_mem_append.mpr ⟨fun a ha => ?_, fun a ha => ?_⟩⟩
      · rw [all any]
        exact List.rel_append files (.cons (isBelow_templatesPath extension) .nil)
      · exact ⟨laid.lasts.housedIn_subset (there a ha).1, laid.lasts.filedIn_subset (there a ha).2⟩
      · exact laid.there ha
  | unmade any failed prelude =>
      obtain ⟨style, hstyle⟩ := templateStyle_of_generator hg
      obtain ⟨text, made⟩ := exists_templatesText hstyle m.templates
      cases made.symm.trans failed
  | unwritten any text_eq before file =>
      have own : ["templates." ++ c.extension] ∈ m.outputNames c.extension := by
        rw [all any]
        exact List.mem_append_right _ List.mem_cons_self
      have below := isBelow_templatesPath extension
      obtain ⟨s₂, built', refused⟩ := exists_isRefused keeps named built.sound own below file
      refine .blocked (built.trans built') own below refused ?_
      rw [Error.kind_context, file.kind]

/-- **A build that lacks nothing** builds its files, up to one that is refused. -/
theorem ends_of_prepared (keeps : host.Keeps view) (named : view.IsNamed) (pace : Pace)
    (h : IsPrepared host view c path s m f) :
    Ends host view c s m (Program.run host (run c path pace).run s).value := by
  obtain ⟨sound, began, typed, valid, loadable, extension, -⟩ := h
  obtain ⟨g, hg⟩ := exists_generator typed (c.generation path)
  have options := (Family.generator_eq_present hg).1
  obtain ⟨ls, loads, bound⟩ := loadable.exists_loads hg
  have rendered : ∀ l ∈ ls, ∃ a, g.render l = .ok a := by
    intro l hl
    obtain ⟨text, made⟩ := bound l hl
    obtain ⟨q, place⟩ := Generator.exists_outputPath_of_loads loads
      (by rw [options]; exact Manifest.exists_outputPath valid extension c.outputDir) l hl
    exact ⟨_, Generator.render_of_bindings made place⟩
  have own : ∀ l ∈ ls, IsOwned g c (m.outputNames c.extension) l := fun l hl a render =>
    Generator.isBelow_of_render options loads hl render
  obtain ⟨ls₁, ls₂, rfl, loads₁, loads₂⟩ := Generator.exists_append_of_loads loads
  have runs := runs_self host (run c path pace) s
  rcases writes_of_run began runs with ⟨_, failed, -⟩ | ⟨report, t₁, t₂, -, -, writes, -⟩
  · obtain ⟨report, passed⟩ := exists_verdict valid
    cases passed.symm.trans failed
  change Ends host view c s m ((run c path pace).run.run host s).value
  rcases writes with ⟨e, he, bindings⟩ | ⟨as, s₁, t₃, t₄, o, bindings, templates, -, ho⟩
  · obtain ⟨t₅, written⟩ := writesAll_of_loads hg loads₁ loads₂ bindings
    cases construction_of_writesAll keeps named sound own rendered written with
    | upTo mem render built refused kind =>
        obtain ⟨x, hx, below⟩ := own _ mem _ render
        rw [he]
        exact .blocked built hx below refused kind
  · obtain ⟨t₅, written⟩ := writesAll_of_loads hg loads₁ loads₂ bindings
    cases construction_of_writesAll keeps named sound own rendered written with
    | all all built there =>
        rw [ho]
        exact ends_of_templates keeps named extension hg (forall₂_isBelow options loads all) built
          there templates

/-! ### The whole -/

variable {r : Outcome BuildSummary} {summary : BuildSummary}

/-- A build that lacks nothing succeeds if its files are level. -/
theorem Ends.exists_ok (only : host.RefusesOnlyClashes view)
    (valid : Configuration.isExtension c.extension = true) (output : IsEmptyOutput view c s)
    (level : IsLevel (m.outputNames c.extension)) (h : Ends host view c s m r) :
    ∃ summary, r = .ok summary := by
  cases h with
  | done => exact ⟨_, rfl⟩
  | blocked built own below refused =>
      exact absurd refused (not_isRefused only valid output level built own below)

/-- Where a build has succeeded, its files are level. -/
theorem Ends.isLevel (only : host.RefusesOnlyClashes view)
    (valid : Configuration.isExtension c.extension = true)
    (h : Ends host view c s m (.ok summary)) : IsLevel (m.outputNames c.extension) := by
  cases h with
  | done files there =>
      obtain ⟨s', there⟩ := there
      intro x hx y hy sub
      obtain ⟨a, -, below, ha⟩ := Generator.exists_mem_zip files hx
      obtain ⟨b, -, below', hb⟩ := Generator.exists_mem_zip files hy
      by_contra ne
      -- the place of one file is a directory of another
      have above : view.Above b.path (view.place a.path) :=
        (only.above_iff below' (isBelow_templatesPath valid) _).mpr
          (.inr ⟨x, below.some, sub, ne, (place_eq_iff only.toKeeps below).mpr rfl⟩)
      obtain ⟨content, file⟩ := (there a ha).2
      cases ((there b hb).1 _ above).symm.trans file

theorem Ends.kind {e : Error} (h : Ends host view c s m (.error e)) : e.kind = .write := by
  cases h with
  | blocked built own below refused kind => exact kind

/-- What is true of the names that lead to files, each two of them, is true of the files. -/
theorem pairwise_of_forall₂ {α β : Type} {R : α → β → Prop} {P : α → α → Prop} {Q : β → β → Prop}
    {xs : List α} {ys : List β} (h : List.Forall₂ R xs ys) (pairs : ys.Pairwise Q)
    (transfer : ∀ {x x' y y'}, R x y → R x' y' → Q y y' → P x x') : xs.Pairwise P := by
  induction h with
  | nil => exact .nil
  | cons first others ih =>
      obtain ⟨before, after⟩ := List.pairwise_cons.mp pairs
      refine List.pairwise_cons.mpr ⟨fun x' hx' => ?_, ih after⟩
      obtain ⟨y', -, other, hy'⟩ := Generator.exists_mem_zip others.flip hx'
      exact transfer first other (before y' hy')

/-- The files of a build that has succeeded, by the names that lead to them. -/
theorem Ends.pairwise (h : Ends host view c s m (.ok summary))
    (apart : (m.outputNames c.extension).Pairwise fun x y => ¬ x <+: y ∧ ¬ y <+: x) :
    summary.written.Pairwise fun p q => ¬ p.parts <+: q.parts ∧ ¬ q.parts <+: p.parts := by
  cases h with
  | done files there =>
      refine List.pairwise_map.mpr (pairwise_of_forall₂ files apart fun below below' ne => ?_)
      rw [below.ends.parts, below'.ends.parts, List.prefix_append_right_inj,
        List.prefix_append_right_inj]
      exact ne

/-- The names in a manifest say what comes of its build.

If they are free of clashes it succeeds, and no file that it has written is another or lies above
another; otherwise some file cannot be written. -/
structure SucceedsUnlessClashing (host : Host σ) (c : Configuration) (path : Path) (pace : Pace)
    (s : σ) (m : Manifest) : Prop where
  succeeds : m.IsClashFree c.extension →
    ∃ summary, (Program.run host (run c path pace).run s).value = .ok summary ∧
      summary.written.Pairwise fun p q => ¬ p.parts <+: q.parts ∧ ¬ q.parts <+: p.parts
  fails : ¬ m.IsClashFree c.extension →
    ∃ e, (Program.run host (run c path pace).run s).value = .error e ∧ e.kind = .write

/-- A build that lacks nothing fails where the names in its manifest clash. -/
theorem exists_error_of_clash (only : host.RefusesOnlyClashes view)
    (prepared : IsPrepared host view c path s m f) (clash : ¬ m.IsClashFree c.extension) :
    ∃ e, (Program.run host (run c path pace).run s).value = .error e ∧ e.kind = .write := by
  have ends := ends_of_prepared only.toKeeps only.named pace prepared
  rcases hv : (Program.run host (run c path pace).run s).value with e | summary
  · rw [hv] at ends
    exact ⟨e, rfl, ends.kind⟩
  · rw [hv] at ends
    exact absurd (Manifest.isClashFree_iff.mpr (ends.isLevel only prepared.extension)) clash

/-- **A build that lacks nothing succeeds just when its manifest is free of clashes.**

The check of a manifest compares no name with the names that a build makes up, and so it passes a
data source that has the name of the file with the classes of the templates, or a template that has
the name of a file in the directory of the templates. -/
theorem run_of_prepared (only : host.RefusesOnlyClashes view) (c : Configuration) (path : Path)
    (pace : Pace) (s : σ) (m : Manifest) (f : Family) (prepared : IsPrepared host view c path s m f)
    (dataSources : (m.dataSources.map Entry.name).Nodup)
    (templates : (m.templates.map Entry.name).Nodup) : SucceedsUnlessClashing host c path pace s m := by
  refine ⟨fun free => ?_, exists_error_of_clash only prepared⟩
  have ends := ends_of_prepared only.toKeeps only.named pace prepared
  obtain ⟨summary, done⟩ := ends.exists_ok only prepared.extension prepared.output
    (Manifest.isClashFree_iff.mp free)
  rw [done] at ends
  have plain := Manifest.isPlain_of_errors prepared.valid
  exact ⟨summary, done,
    ends.pairwise (free.pairwise (Manifest.nodup_outputNames plain dataSources templates))⟩

/-! ### Builds of plain files -/

variable {files : List (String × String)} {manifest text : String}

/-- A manifest has no errors, and the files that it lists are among some, each with definitions of
events. -/
def supplies (files : List (String × String)) (m : Manifest) : Bool :=
  isValid .tendermint (Configuration.validation {} ⟨"m"⟩) m &&
    (m.dataSourceAbis ++ m.templateAbis).all fun r =>
      PlainFiles.place r.file == [r.file.text] &&
        (files.lookup r.file.text).any fun text => (Cosmos.parseEvents text).toBool

/-- Definitions of events have bindings. -/
theorem exists_bindings_of_parseEvents (h : (Cosmos.parseEvents text).toBool = true) (name : String)
    (file : Path) : ∃ i notice bindings,
      Interface.readDefinitions name file text = .ok (i, notice) ∧ i.bindings = .ok bindings := by
  unfold Interface.readDefinitions
  rcases hp : Cosmos.parseEvents text with e | events
  · rw [hp] at h
    cases h
  · obtain ⟨bindings, made⟩ := Interface.exists_bindings (i := .ofDefinitions name file events) rfl
      (Interface.exists_format_ofDefinitions rfl)
    exact ⟨_, _, bindings, rfl, made⟩

/-- **The build of such a manifest lacks nothing** where the files are all that there is. -/
theorem isPrepared_holding (found : files.lookup "m" = some manifest)
    (unused : files.lookup "generated" = none) (parsed : Manifest.parse manifest = .ok m)
    (h : supplies files m = true) :
    IsPrepared PlainFiles.host PlainFiles.view {} ⟨"m"⟩ (.holding files) m .tendermint := by
  unfold supplies at h
  rw [Bool.and_eq_true, isValid_iff, List.all_eq_true] at h
  obtain ⟨⟨known, valid⟩, listed⟩ := h
  have read := PlainFiles.read_holding (show PlainFiles.place ⟨"m"⟩ = ["m"] by decide +kernel) found
  have output : PlainFiles.place ⟨"generated"⟩ = ["generated"] := by decide +kernel
  have templates : ∀ {q}, PlainFiles.view.Above (templatesPath {}) q → q = ["generated"] := by
    intro q above
    have ends := (isBelow_templatesPath (c := {}) (by decide)).ends
    obtain ⟨some, sub⟩ := (PlainFiles.above_iff ends).mp above
    rw [show PlainFiles.place _ = _ from output, List.suffix_cons_iff, List.suffix_nil] at sub
    exact sub.resolve_right some
  refine ⟨trivial, ⟨⟨manifest, read, parsed⟩, known⟩, .inr rfl, valid, ?_, by decide, ?_, ?_, ?_⟩
  · rintro r hr reader ⟨⟩
    have fits := listed r hr
    rw [Bool.and_eq_true, Option.any_eq_true] at fits
    obtain ⟨here, text, found, defines⟩ := fits
    have located : r.file.seenFrom (Configuration.sourceDirFor {} ⟨"m"⟩) = ⟨r.file.text⟩ := by
      rw [show Configuration.sourceDirFor {} ⟨"m"⟩ = none by decide +kernel]
      rfl
    obtain ⟨i, notice, bindings, made, bound⟩ :=
      exists_bindings_of_parseEvents defines r.abi ⟨r.file.text⟩
    rw [located]
    have read := PlainFiles.read_holding (beq_iff_eq.mp here) found
    exact ⟨text, i, notice, bindings, read, made, bound⟩
  · intro x some
    change PlainFiles.holding files (x ++ PlainFiles.place ⟨"generated"⟩) = none
    obtain ⟨n, x, rfl⟩ := List.exists_cons_of_ne_nil some
    rw [output, List.cons_append]
    rcases x with _ | ⟨_, _⟩ <;> rfl
  · intro q content above
    change PlainFiles.holding files q ≠ _
    rw [templates above, PlainFiles.holding, unused, Option.map_none]
    exact (Option.some_ne_none _).symm
  · intro q above x some same
    rw [templates above, show PlainFiles.view.place ⟨"generated"⟩ = _ from output] at same
    have long := congrArg List.length same
    rw [List.length_append, List.length_singleton] at long
    exact some (List.length_eq_zero_iff.mp (by omega))

/-- The files that a manifest lists are there, no two of its entries have the same name, and its own
files have these names. -/
def hasOutput (names : List (List String)) (files : List (String × String)) (m : Manifest) : Bool :=
  supplies files m && (m.outputNames "ts" == names &&
    (decide (m.dataSources.map Entry.name).Nodup && decide (m.templates.map Entry.name).Nodup))

theorem hasOutput_iff {names : List (List String)} : hasOutput names files m = true ↔
    supplies files m = true ∧ m.outputNames "ts" = names ∧ (m.dataSources.map Entry.name).Nodup ∧
      (m.templates.map Entry.name).Nodup := by
  unfold hasOutput
  simp only [Bool.and_eq_true, beq_iff_eq, decide_eq_true_iff]

/-- A manifest with a data source that is called as the directory of the templates, and a template
that is called as the file of the data source. -/
def sameNames (abis : String) : String := "dataSources:\n" ++
  "- {kind: tendermint/data, name: templates, mapping: {abis: [{name: B, file: b}]}}\n" ++
  "templates:\n- kind: tendermint/data\n  name: B.ts\n  mapping:\n    abis: [" ++ abis ++ "]\n"

/-- The manifest with a file of definitions. -/
def sameNamesFiles (abis : String) : List (String × String) :=
  [("m", sameNames abis), ("b", "[]")]

/-- Such a manifest does not clash as long as the template has no interface. -/
theorem run_of_prepared_sameNames : ∃ m, m.IsClashFree "ts" ∧
    SucceedsUnlessClashing PlainFiles.host {} ⟨"m"⟩ [[1]] (.holding (sameNamesFiles "")) m := by
  have readable : (Manifest.parse (sameNames "")).toOption.any
      (hasOutput [["templates", "B.ts"], ["templates.ts"]] (sameNamesFiles "")) = true := by
    decide +kernel
  obtain ⟨m, parsed, fits⟩ := exists_of_any readable
  obtain ⟨supplied, output, dataSources, templates⟩ := hasOutput_iff.mp fits
  have free : m.IsClashFree "ts" := by
    rw [Manifest.isClashFree_iff, output]
    unfold IsLevel
    decide
  exact ⟨m, free, run_of_prepared PlainFiles.refusesOnlyClashes _ _ _ _ m .tendermint
    (isPrepared_holding rfl rfl parsed supplied) dataSources templates⟩

/-- **A manifest without errors may clash**, though no two of its entries have the same name and the
output directory is empty: the file of the data source lies where the template needs a directory. -/
theorem not_run_sameNames : PlainFiles.host.RefusesOnlyClashes PlainFiles.view ∧
    ∃ m, IsPrepared PlainFiles.host PlainFiles.view {} ⟨"m"⟩
      (.holding (sameNamesFiles "{name: B, file: b}")) m .tendermint ∧
    (m.dataSources.map Entry.name).Nodup ∧ (m.templates.map Entry.name).Nodup ∧
    ¬ ∃ summary, (Program.run PlainFiles.host (run {} ⟨"m"⟩).run
      (.holding (sameNamesFiles "{name: B, file: b}"))).value = .ok summary := by
  have readable : (Manifest.parse (sameNames "{name: B, file: b}")).toOption.any
      (hasOutput [["templates", "B.ts"], ["templates", "B.ts", "B.ts"], ["templates.ts"]]
        (sameNamesFiles "{name: B, file: b}")) = true := by decide +kernel
  obtain ⟨m, parsed, fits⟩ := exists_of_any readable
  obtain ⟨supplied, output, dataSources, templates⟩ := hasOutput_iff.mp fits
  have prepared := isPrepared_holding rfl rfl parsed supplied
  refine ⟨PlainFiles.refusesOnlyClashes, m, prepared, dataSources, templates, ?_⟩
  rintro ⟨summary, done⟩
  obtain ⟨e, failed, -⟩ := exists_error_of_clash PlainFiles.refusesOnlyClashes prepared (by
    rw [Manifest.isClashFree_iff, output]
    unfold IsLevel
    decide)
  cases done.symm.trans failed

end Build

end Subgraph

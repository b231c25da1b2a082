import Subgraph.Proofs.Clashes
import Subgraph.Proofs.FileTrees

/-!
# Reruns — a build that is run once more

A second build of a manifest finds what the first one has left: directories and files where there
may have been none.  None of them is in its way, for it writes the same files in the same order, as
long as no answer has to be waited for.

* `Host.Overwrites`: what is asked of a host is granted again, and what is read is found again.
* `PlainFiles.overwrites`, `FileTree.overwrites`: such hosts.
* `Again`: a file that has been written can be written in every later state.
* `Generator.Wrote.again`, `TemplatesRun.again`: bindings and classes of templates that have been
  written are written again.
* `run_again`: a build that has succeeded succeeds once more, with the same summary, and changes
  nothing.
-/

namespace Subgraph

open Subgraph.Action

variable {σ : Type} {host : Host σ} {view : TreeView σ} {s s' s₁ s₂ s₃ : σ} {t t₁ t₂ : List Event}

/-- A host keeps files in directories, and writes over what is there.

A file that could be written once can be written over, and a file that could be read once can be
read, as long as the directories of that time are still there. -/
structure Host.Overwrites (host : Host σ) (view : TreeView σ) : Prop extends host.Keeps view where
  named : view.IsNamed
  exists_rewrite : ∀ {s₁ s₁' s : σ} {path : Path} {text : String}, view.Sound s₁ →
    host.write s₁ path text = .ok s₁' → view.Sound s →
      (∀ place, view.node? s₁ place = some .dir → view.node? s place = some .dir) →
        view.node? s (view.place path) ≠ some .dir → ∃ s', host.write s path text = .ok s'
  file_of_read : ∀ {s : σ} {path : Path} {text : String}, view.Sound s →
    host.read s path = .ok text → view.node? s (view.place path) = some (.file (.text text))
  read_again : ∀ {s₁ s : σ} {path : Path} {text₁ text : String}, view.Sound s₁ →
    host.read s₁ path = .ok text₁ → view.Sound s →
      (∀ place, view.node? s₁ place = some .dir → view.node? s place = some .dir) →
        view.node? s (view.place path) = some (.file (.text text)) → host.read s path = .ok text

/-! ### Plain files and trees -/

theorem PlainFiles.overwrites : PlainFiles.host.Overwrites PlainFiles.view where
  __ := keeps
  named := refusesOnlyClashes.named
  exists_rewrite _ _ _ _ free := ⟨_, write_eq_ok_iff.mpr ⟨free, rfl⟩⟩
  file_of_read _ granted := read_eq_ok_iff.mp granted
  read_again _ _ _ _ found := read_eq_ok_iff.mpr found

namespace FileTree

variable {tree : FileTree} {path : Path} {text : String}

theorem exists_of_read (h : tree.read path = .ok text) :
    ∃ q, tree.locate path = .ok q ∧ tree.at? q = some (.file (.text text)) := by
  unfold read node? at h
  rcases located : tree.locate path with e | q
  · rw [located] at h
    cases h
  rcases found : tree.at? q with _ | _ | _ | _ <;>
    simp only [located, found, bind, Except.bind] at h <;> cases h
  exact ⟨q, rfl, found⟩

theorem read_of_locate {q : FilePlace} (located : tree.locate path = .ok q)
    (found : tree.at? q = some (.file (.text text))) : tree.read path = .ok text := by
  unfold read node?
  simp only [located, found, bind, Except.bind]
  rfl

/-- **Trees write over what is there**, and find again what they hold. -/
theorem overwrites (base : FilePlace) : FileTree.host.Overwrites (FileTree.view base) where
  __ := keeps base
  named := fun _ _ ⟨dir, named, _⟩ => ⟨dir, named⟩
  exists_rewrite sound₁ granted sound lasts free := by
    obtain ⟨q, located, -⟩ := exists_of_write granted
    obtain ⟨admitted, lasting, -⟩ := of_write sound₁ granted
    obtain ⟨-, on_way, -⟩ := of_locate located
    rw [sound₁.base_eq] at on_way
    exact exists_write sound admitted lasting (fun place entered => lasts place (on_way _ entered))
      free
  file_of_read sound granted := by
    obtain ⟨q, located, found⟩ := exists_of_read granted
    obtain ⟨-, -, rfl⟩ := of_locate located
    rw [sound.base_eq] at found
    exact found
  read_again sound₁ granted sound lasts found := by
    obtain ⟨q, located, was⟩ := exists_of_read granted
    have lasting := isLasting_of_locate located (by rw [was]; exact nofun)
    obtain ⟨admitted, on_way, -⟩ := of_locate located
    rw [sound₁.base_eq] at on_way
    exact read_of_locate (sound.locate admitted lasting fun place entered =>
      lasts place (on_way _ entered)) found

end FileTree

/-! ### Files that can be written again -/

/-- In every state that comes later than `s` the file can be written. -/
def Again (host : Host σ) (view : TreeView σ) (s : σ) (a : Artifact) : Prop :=
  ∀ ⦃s₁ r s₂ t⦄, view.Sound s₁ → view.Lasts s s₁ → FileRun host a.path a.text s₁ r s₂ t → r = .ok ()

theorem Again.later {a : Artifact} (h : Again host view s a) (lasts : view.Lasts s s₁) :
    Again host view s₁ a := fun _ _ _ _ sound lasts₁ file => h sound (lasts.trans lasts₁) file

/-- **A file that has been written can be written again**, whatever has been done since. -/
theorem again_of_fileRun (rewrites : host.Overwrites view) (sound : view.Sound s) {a : Artifact}
    (h : FileRun host a.path a.text s (.ok ()) s' t) : Again host view s' a := by
  cases h with
  | @written s₀ _ t dir granted =>
  obtain ⟨sound₀, housed⟩ := TreeView.housed_of_dirRun rewrites.toKeeps rewrites.named sound dir
  have filed := rewrites.filed sound₀ granted
  intro s₁ r s₂ t₁ sound₁ lasts file
  cases file with
  | @noDir dir₁ _ named refused =>
      -- what is on the way to the file is there since it was written first
      cases dir with
      | unnamed none => cases none.symm.trans named
      | made some made =>
          cases some.symm.trans named
          obtain ⟨s₂, made'⟩ := rewrites.exists_ensureDir named sound made sound₁
            fun place c above was => by
              have there := lasts.dirs (filed.lasts.dirs (housed.dirs place above))
              cases there.symm.trans was
          cases made'.symm.trans refused
  | @refused s₂ _ _ dir₁ refused =>
      obtain ⟨sound₂, housed₁⟩ :=
        TreeView.housed_of_dirRun rewrites.toKeeps rewrites.named sound₁ dir₁
      have lasts₂ := lasts.trans housed₁.lasts
      obtain ⟨c, there⟩ := lasts₂.files filed.file
      obtain ⟨s₃, written⟩ := rewrites.exists_rewrite sound₀ granted sound₂
        (fun place was => lasts₂.dirs (filed.lasts.dirs was)) (by rw [there]; exact nofun)
      cases written.symm.trans refused
  | written => rfl

namespace Generator

variable {g : Generator} {ls : List LoadedAbi} {as : List Artifact}

theorem Wrote.again_of_mem (rewrites : host.Overwrites view) (sound : view.Sound s)
    (h : g.Wrote host s ls as s' t) : ∀ a ∈ as, Again host view s' a := by
  induction h with
  | nil => exact nofun
  | cons render file rest ih =>
      have sound₁ := (TreeView.laid_of_fileRun rewrites.toKeeps rewrites.named sound file).1
      have lasts := (rest.laid rewrites.toKeeps rewrites.named sound₁).2.lasts
      exact List.forall_mem_cons.mpr ⟨(again_of_fileRun rewrites sound file).later lasts, ih sound₁⟩
  | aside prelude rest ih => exact ih sound

/-- The files of some interfaces are determined by them. -/
theorem rendered_unique {as₁ : List Artifact}
    (h : List.Forall₂ (fun l a => g.render l = .ok a) ls as)
    (h₁ : List.Forall₂ (fun l a => g.render l = .ok a) ls as₁) : as = as₁ := by
  refine List.right_unique_forall₂' (fun {l a b} ha hb => ?_) h h₁
  exact Except.ok.inj (ha.symm.trans hb)

/-- **Bindings that have been written are written again**, in every later state. -/
theorem Wrote.again (rewrites : host.Overwrites view) (sound : view.Sound s)
    (h : g.Wrote host s ls as s' t) (sound₁ : view.Sound s₁) (lasts : view.Lasts s' s₁)
    {r : Outcome (List Artifact)} (h₁ : g.Writes host s₁ ls r s₂ t₁) :
    r = .ok as ∧ view.Sound s₂ ∧ view.Laid as s₁ s₂ := by
  rcases h₁ with ⟨as₁, rfl, wrote⟩ | ⟨frame, e, rfl, stopped⟩
  · cases rendered_unique h.rendered wrote.rendered
    exact ⟨rfl, wrote.laid rewrites.toKeeps rewrites.named sound₁⟩
  · obtain ⟨rest, before, failed, -⟩ := stopped
    obtain ⟨a, -, render, ha⟩ := exists_mem_zip h.rendered.flip
      (List.mem_append_right _ List.mem_cons_self)
    have laid := (before.laid rewrites.toKeeps rewrites.named sound₁)
    cases failed with
    | unmade failed => cases render.symm.trans failed
    | unwritten render' file =>
        cases render.symm.trans render'
        cases h.again_of_mem rewrites sound a ha laid.1 (lasts.trans laid.2.lasts) file

end Generator

namespace Build

variable {c : Configuration} {path : Path} {f : Family} {m : Manifest}

/-- **The classes of templates that have been written are written again.** -/
theorem TemplatesRun.again (rewrites : host.Overwrites view) (sound : view.Sound s)
    {a? : Option Artifact} (h : TemplatesRun host c f m s (.ok a?) s' t) (sound₁ : view.Sound s₁)
    (lasts : view.Lasts s' s₁) {r : Outcome (Option Artifact)}
    (h₁ : TemplatesRun host c f m s₁ r s₂ t₁) : r = .ok a? ∧ view.Laid a?.toList s₁ s₂ := by
  cases h with
  | none empty =>
      cases h₁ with
      | none => exact ⟨rfl, .nil⟩
      | written any | unmade any | unwritten any => exact absurd empty any
  | written any made before file =>
      cases h₁ with
      | none empty => exact absurd empty any
      | written _ made' _ file' =>
          cases made.symm.trans made'
          exact ⟨rfl, (TreeView.laid_of_fileRun rewrites.toKeeps rewrites.named sound₁ file').2⟩
      | unmade _ failed => cases made.symm.trans failed
      | unwritten _ made' _ file' =>
          cases made.symm.trans made'
          cases again_of_fileRun (a := ⟨_, _⟩) rewrites sound file sound₁ lasts file'

/-! ### What a build reads -/

/-- The files that a build of a manifest reads: the manifest itself, and the interface files. -/
def inputs (c : Configuration) (path : Path) (m : Manifest) : List Path :=
  path :: (m.dataSourceAbis ++ m.templateAbis).map fun r => r.file.seenFrom (c.sourceDirFor path)

/-- A place is the output directory, or below it, or that of the file with the classes of the
templates.  That file is in the output directory, too, unless the extension has separators. -/
def InOutput (view : TreeView σ) (c : Configuration) (place : FilePlace) : Prop :=
  view.place c.outputDir <:+ place ∨ place = view.place (templatesPath c)

/-- Bindings are written in the output directory. -/
theorem inOutput_of_outputPath (keeps : host.Keeps view) {r : AbiReference} {q : Path}
    (h : r.outputPath c.outputDir c.extension = .ok q) : InOutput view c (view.place q) := by
  obtain ⟨plain, extends'⟩ := extends_outputPath h
  rw [keeps.place_extends extends' plain]
  exact .inl (List.suffix_append _ _)

theorem inOutput_of_rendered (keeps : host.Keeps view) {g : Generator}
    (options : g.options = c.generation path) {ls : List LoadedAbi} {as : List Artifact}
    (h : List.Forall₂ (fun l a => g.render l = .ok a) ls as) :
    ∀ a ∈ as, InOutput view c (view.place a.path) := by
  intro a ha
  obtain ⟨l, -, render, -⟩ := Generator.exists_mem_zip h ha
  have place := (Generator.eq_of_render render).2
  rw [options] at place
  exact inOutput_of_outputPath keeps place

theorem TemplatesRun.inOutput {a? : Option Artifact}
    (h : TemplatesRun host c f m s (.ok a?) s' t) :
    ∀ a ∈ a?.toList, InOutput view c (view.place a.path) := by
  cases h with
  | none => exact nofun
  | written => exact List.forall_mem_singleton.mpr (.inr rfl)

/-- **A file outside the output is read again** as it was. -/
theorem read_again (rewrites : host.Overwrites view) (sound : view.Sound s) (sound' : view.Sound s')
    {as : List Artifact} (laid : view.Laid as s s')
    (inside : ∀ a ∈ as, InOutput view c (view.place a.path)) {input : Path}
    (outside : ¬ InOutput view c (view.place input)) {text : String}
    (read : host.read s input = .ok text) : host.read s' input = .ok text :=
  rewrites.read_again sound read sound' (fun _ => laid.lasts.dirs)
    (laid.file_eq (rewrites.file_of_read sound read) fun a ha same => outside (same ▸ inside a ha))

/-- Interfaces that have been loaded are loaded from files that are read as before. -/
theorem loads_again {g : Generator} (options : g.options = c.generation path)
    {refs : List AbiReference} (listed : refs ⊆ g.references m) {ls : List LoadedAbi}
    (loads : List.Forall₂ (g.Loads (host.read s)) refs ls)
    (reads : ∀ input ∈ inputs c path m, ∀ text, host.read s input = .ok text →
      host.read s' input = .ok text) : List.Forall₂ (g.Loads (host.read s')) refs ls := by
  have files : ∀ r ∈ refs, ∀ text, host.read s r.file = .ok text →
      host.read s' r.file = .ok text := by
    intro r hr
    obtain ⟨r, hr', rfl⟩ := Generator.exists_of_mem_references (listed hr)
    rw [options]
    exact reads _ (List.mem_cons_of_mem _ (List.mem_map.mpr ⟨r, hr', rfl⟩))
  refine ((List.forall₂_and_left _ _).mpr ⟨files, loads⟩).imp ?_
  rintro r l ⟨files, reference, text, notice, read, made⟩
  exact ⟨reference, text, notice, files text read, made⟩

/-! ### The whole -/

/-- The bindings of a build that has written them are written again. -/
theorem bindings_again (rewrites : host.Overwrites view) (sound : view.Sound s)
    {as : List Artifact} (h : Runs host (writeBindings c path f m) s (.ok as) s' t)
    (sound₁ : view.Sound s₁) (lasts : view.Lasts s' s₁)
    (reads : ∀ input ∈ inputs c path m, ∀ text, host.read s input = .ok text →
      host.read s₁ input = .ok text)
    {r : Outcome (List Artifact)} (h₁ : Runs host (writeBindings c path f m) s₁ r s₂ t₁) :
    r = .ok as ∧ view.Sound s₂ ∧ view.Laid as s₁ s₂ := by
  rcases runs_bindings h with ⟨unsupported, has, -, -⟩ | ⟨g, hg, generates⟩
  · cases has
    rcases runs_bindings h₁ with ⟨-, rfl, rfl, -⟩ | ⟨g, hg, -⟩
    · exact ⟨rfl, sound₁, .nil⟩
    · cases unsupported.symm.trans hg
  · rcases generates with ⟨-, _, has, -⟩ | ⟨ls₁, ls₂, loads₁, loads₂, writes⟩
    · cases has
    rcases writes.inOrder with ⟨as', has, wrote⟩ | ⟨_, _, has, -⟩ <;> cases has
    have options := (Family.generator_eq_present hg).1
    have again₁ := loads_again options (List.subset_append_left _ _) loads₁ reads
    have again₂ := loads_again options (List.subset_append_right _ _) loads₂ reads
    obtain ⟨t₂, writes⟩ := writesAll_of_loads hg again₁ again₂ h₁
    exact wrote.again rewrites sound sound₁ lasts writes.inOrder

/-- The files of a build have been laid over a state, in its output. -/
theorem laid_of_bindings (keeps : host.Keeps view) (named : view.IsNamed) (sound : view.Sound s)
    {as : List Artifact} (h : Runs host (writeBindings c path f m) s (.ok as) s' t) :
    view.Sound s' ∧ view.Laid as s s' ∧ ∀ a ∈ as, InOutput view c (view.place a.path) := by
  rcases runs_bindings h with ⟨-, has, rfl, -⟩ | ⟨g, hg, generates⟩
  · cases has
    exact ⟨sound, .nil, nofun⟩
  · rcases generates with ⟨-, _, has, -⟩ | ⟨ls₁, ls₂, -, -, writes⟩
    · cases has
    rcases writes.inOrder with ⟨as', has, wrote⟩ | ⟨_, _, has, -⟩ <;> cases has
    obtain ⟨sound', laid⟩ := wrote.laid keeps named sound
    exact ⟨sound', laid,
      inOutput_of_rendered keeps (Family.generator_eq_present hg).1 wrote.rendered⟩

/-- A build of a manifest that has succeeded, run once more: it gives the same summary, and leaves
everything as the first one has left it. -/
structure RunsAgain (host : Host σ) (view : TreeView σ) (c : Configuration) (path : Path) (s : σ)
    (summary : BuildSummary) : Prop where
  value : (Program.run host (run c path).run
    (Program.run host (run c path).run s).state).value = .ok summary
  unchanged : ∀ place,
    view.node? (Program.run host (run c path).run
      (Program.run host (run c path).run s).state).state place =
    view.node? (Program.run host (run c path).run s).state place

/-- **A build that has succeeded succeeds once more,** gives the same summary, and changes nothing.

The files that it reads must not be in its output.  Several bindings may have one path; the last of
them are there in the end, both times. -/
theorem run_again (rewrites : host.Overwrites view) (c : Configuration) (path : Path) (s : σ)
    (m : Manifest) (f : Family) (sound : view.Sound s) (began : Began host s path m f)
    (outside : ∀ input ∈ inputs c path m, ¬ InOutput view c (view.place input))
    (summary : BuildSummary)
    (done : (Program.run host (run c path).run s).value = .ok summary) :
    RunsAgain host view c path s summary := by
  have h := runs_self host (run c path) s
  rw [show ((run c path).run.run host s).value = .ok summary from done] at h
  have h₁ := runs_self host (run c path) (Program.run host (run c path).run s).state
  suffices again : (Program.run host (run c path).run _).value = .ok summary ∧
      ∀ place, view.node? (Program.run host (run c path).run _).state place = _ from
    ⟨again.1, again.2⟩
  generalize (Program.run host (run c path).run s).state = s' at h h₁ ⊢
  rcases writes_of_run began h with ⟨_, -, he⟩ | ⟨report, t₁, t₂, passed, -, writes, -⟩
  · cases he
  rcases writes with ⟨_, he, -⟩ | ⟨as, s₁, t₃, t₄, o, bindings, templates, -, ho⟩
  · cases he
  rcases o with e | a?
  · cases ho
  cases ho
  -- the first build has laid its files over the state
  obtain ⟨sound₁, laid₁, inside₁⟩ := laid_of_bindings rewrites.toKeeps rewrites.named sound bindings
  obtain ⟨sound', laid₂⟩ := templates.laid rewrites.toKeeps rewrites.named sound₁
  have laid := laid₁.append laid₂
  have inside : ∀ a ∈ as ++ a?.toList, InOutput view c (view.place a.path) :=
    List.forall_mem_append.mpr ⟨inside₁, templates.inOutput⟩
  have reads : ∀ input ∈ inputs c path m, ∀ text, host.read s input = .ok text →
      host.read s' input = .ok text := fun input hi text read =>
    read_again rewrites sound sound' laid inside (outside input hi) read
  -- so the second one begins as the first did, and lays the same files once more
  obtain ⟨⟨text, read, parsed⟩, known⟩ := began
  have began' : Began host s' path m f :=
    ⟨⟨text, reads path List.mem_cons_self text read, parsed⟩, known⟩
  rcases writes_of_run began' h₁ with ⟨_, failed, -⟩ | ⟨report', t₅, t₆, passed', -, writes', -⟩
  · cases passed.symm.trans failed
  cases passed.symm.trans passed'
  rcases writes' with ⟨e, -, failed⟩ | ⟨as', s₂, t₇, t₈, o, written, templates', -, ho⟩
  · cases (bindings_again rewrites sound bindings sound' laid₂.lasts reads failed).1
  obtain ⟨has, sound₂, laid₃⟩ :=
    bindings_again rewrites sound bindings sound' laid₂.lasts reads written
  cases has
  obtain ⟨rfl, laid₄⟩ := templates.again rewrites sound₁ sound₂ laid₃.lasts templates'
  exact ⟨ho, laid.again (laid₃.append laid₄)⟩

/-- Files outside all directories are not in the output. -/
theorem not_inOutput_of_supplies {files : List (String × String)} {manifest : String}
    (found : files.lookup "m" = some manifest) (unused : files.lookup "generated" = none)
    (h : supplies files m = true) : ∀ input ∈ inputs {} ⟨"m"⟩ m,
      ¬ InOutput PlainFiles.view {} (PlainFiles.view.place input) := by
  have apart {input : Path} {text : String} (here : PlainFiles.place input = [input.text])
      (found : files.lookup input.text = some text) :
      ¬ InOutput PlainFiles.view {} (PlainFiles.view.place input) := by
    rw [show PlainFiles.view.place input = _ from here]
    rintro (below | same)
    · rw [show PlainFiles.view.place _ = ["generated"] by decide +kernel] at below
      have name := List.singleton_inj.mp (below.eq_of_length rfl)
      rw [← name, unused] at found
      cases found
    · rw [show PlainFiles.view.place _ = ["templates.ts", "generated"] by decide +kernel] at same
      exact absurd (congrArg List.length same) (by simp)
  unfold supplies at h
  rw [Bool.and_eq_true, List.all_eq_true] at h
  refine List.forall_mem_cons.mpr ⟨apart (by decide +kernel) found, fun input hi => ?_⟩
  obtain ⟨r, hr, rfl⟩ := List.mem_map.mp hi
  have fits := h.2 r hr
  rw [Bool.and_eq_true, Option.any_eq_true] at fits
  obtain ⟨here, text, found, -⟩ := fits
  rw [show Configuration.sourceDirFor {} ⟨"m"⟩ = none by decide +kernel]
  exact apart (beq_iff_eq.mp here) found

/-- A manifest with two data sources whose bindings have one path. -/
def twins : String := "dataSources:\n" ++
  "- {kind: tendermint/data, name: B, mapping: {abis: [{name: B, file: a}]}}\n" ++
  "- {kind: tendermint/data, name: B, mapping: {abis: [{name: B, file: b}]}}\n"

/-- The manifest with two files of definitions. -/
def twinsFiles : List (String × String) := [("m", twins), ("a", "[]"), ("b", "[[\"t\"]]")]

/-- The bindings for one file are written over those for the other, both times. -/
theorem run_again_twins : ∃ summary, RunsAgain PlainFiles.host PlainFiles.view {} ⟨"m"⟩
    (.holding twinsFiles) summary := by
  have readable : (Manifest.parse twins).toOption.any (fun m => supplies twinsFiles m &&
      m.outputNames "ts" == [["B", "B.ts"], ["B", "B.ts"]]) = true := by decide +kernel
  obtain ⟨m, parsed, fits⟩ := exists_of_any readable
  rw [Bool.and_eq_true, beq_iff_eq] at fits
  obtain ⟨supplied, output⟩ := fits
  have prepared := isPrepared_holding rfl rfl parsed supplied
  have ends := ends_of_prepared PlainFiles.keeps PlainFiles.refusesOnlyClashes.named [] prepared
  obtain ⟨summary, done⟩ := ends.exists_ok PlainFiles.refusesOnlyClashes prepared.extension
    prepared.output (by
      rw [show m.outputNames _ = _ from output]
      unfold IsLevel
      decide)
  exact ⟨summary, run_again PlainFiles.overwrites _ _ _ m .tendermint trivial prepared.began
    (not_inOutput_of_supplies rfl rfl supplied) summary done⟩

end Build

end Subgraph

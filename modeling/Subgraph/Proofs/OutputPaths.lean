import Subgraph.Proofs.Builds
import Subgraph.Proofs.Components

/-!
# OutputPaths — a build stays in its output directory

The names of data sources, templates and interfaces are free text, and the bindings of an interface
go to a path that is made of them.  `AbiReference.outputPath` refuses the names that would lead
elsewhere, before anything is asked for.

* `extends_outputPath`: the path of bindings is the output directory with two or three plain names.
* `Event.IsOrderly`: a request is for a path that a build may write to, and an announcement is of
  plain names.
* `run_stays_inside`: every directory and every file that a build asks for is in its output
  directory, and after the announcement of an interface with a refused name it asks for none.
-/

namespace Subgraph

open Subgraph.Action

variable {σ : Type} {host : Host σ} {s s' s₁ : σ} {t t₁ t₂ : List Event}

/-! ### The paths of files -/

theorem badName?_eq_none_iff {names : List String} :
    AbiReference.badName? names = none ↔ ∀ name ∈ names, IsSegment name := by
  simp only [AbiReference.badName?, List.findSome?_eq_none_iff, Option.map_eq_none_iff,
    segmentProblem?_eq_none_iff]

/-- The names of bindings that have a path are plain. -/
theorem isSegment_of_outputPath {r : AbiReference} {root path : Path} {extension : String}
    (h : r.outputPath root extension = .ok path) :
    IsSegment r.owner.name ∧ IsSegment r.abi ∧ IsSegment (r.fileName extension) ∧
      path = (r.owner.outputDir root).join ⟨r.fileName extension⟩ := by
  unfold AbiReference.outputPath at h
  split at h
  · cases h
  · next hb =>
    cases h
    have plain := badName?_eq_none_iff.mp hb
    exact ⟨plain _ (.head _), plain _ (.tail _ (.head _)),
      plain _ (.tail _ (.tail _ (.head _))), rfl⟩

/-- Bindings with plain names have a path. -/
theorem outputPath_of_isSegment {r : AbiReference} {extension : String}
    (plain : ∀ name ∈ r.names extension, IsSegment name) (root : Path) :
    r.outputPath root extension = .ok ((r.owner.outputDir root).join ⟨r.fileName extension⟩) := by
  rw [AbiReference.outputPath, badName?_eq_none_iff.mpr plain]

/-- The names that lead from the directory of all bindings to that of an owner. -/
def Owner.segments : Owner → List String
  | .dataSource name => [name]
  | .template name => ["templates", name]

theorem Owner.length_segments_le (owner : Owner) : owner.segments.length ≤ 2 := by
  cases owner with
  | dataSource => exact Nat.le_succ 1
  | template => exact Nat.le_refl 2

theorem Owner.segments_of_template {owner : Owner} (template : owner.isTemplate = true) :
    owner.segments = ["templates", owner.name] := by
  cases owner with
  | dataSource name => cases template
  | template name => rfl

theorem Owner.segments_of_dataSource {owner : Owner} (dataSource : owner.isTemplate = false) :
    owner.segments = [owner.name] := by
  cases owner with
  | dataSource name => rfl
  | template name => cases dataSource

theorem isSegment_of_mem_segments {owner : Owner} (h : IsSegment owner.name) {n : String}
    (hn : n ∈ owner.segments) : IsSegment n := by
  cases owner with
  | dataSource name =>
      rw [List.mem_singleton.mp hn]
      exact h
  | template name =>
      rcases List.mem_cons.mp hn with rfl | hn
      · unfold IsSegment
        decide
      · rw [List.mem_singleton.mp hn]
        exact h

/-- The directory of an owner is the root with the names that lead there. -/
theorem extends_outputDir {owner : Owner} (h : IsSegment owner.name) (root : Path) :
    (owner.outputDir root).Extends root owner.segments := by
  have isName {n} (hn : n ∈ owner.segments) :=
    Path.isName_of_isSegment (isSegment_of_mem_segments h hn)
  cases owner with
  | dataSource n => exact (Path.Extends.refl root).join (isName (.head _))
  | template n =>
      exact ((Path.Extends.refl root).join (isName (.head _))).join (isName (.tail _ (.head _)))

/-- **The path of bindings** is the root with the names that lead to the directory of the owner, and
that of the file. -/
theorem extends_outputPath {r : AbiReference} {root path : Path} {extension : String}
    (h : r.outputPath root extension = .ok path) :
    (∀ x ∈ r.owner.segments ++ [r.fileName extension], IsSegment x) ∧
      path.Extends root (r.owner.segments ++ [r.fileName extension]) := by
  obtain ⟨owner, -, file, rfl⟩ := isSegment_of_outputPath h
  refine ⟨fun x hx => ?_, (extends_outputDir owner root).join (Path.isName_of_isSegment file)⟩
  rcases List.mem_append.mp hx with hx | hx
  · exact isSegment_of_mem_segments owner hx
  · rw [List.mem_singleton.mp hx]
    exact file

/-- Interfaces with one file name have one name. -/
theorem abi_of_fileName {r r' : AbiReference} {extension : String}
    (h : r.fileName extension = r'.fileName extension) : r.abi = r'.abi := by
  unfold AbiReference.fileName at h
  rw [← String.toList_inj] at h ⊢
  simpa only [String.toList_append, List.append_assoc, List.append_cancel_right_eq] using h

namespace Build

variable {c : Configuration} {path : Path} {f : Family} {m : Manifest}

/-- The name of the file with the classes of the templates is plain. -/
theorem isSegment_templates {extension : String} (h : Configuration.isExtension extension = true) :
    IsSegment ("templates." ++ extension) := by
  have chars : ("templates." ++ extension).toList = "templates.".toList ++ extension.toList :=
    String.toList_append
  have free (x : Char) (hx : x ∉ "templates.".toList)
      (he : (x != '.' && x != '/' && x != '\\') = false) :
      x ∉ ("templates." ++ extension).toList := by
    rw [chars]
    intro hm
    rcases List.mem_append.mp hm with hm | hm
    · exact hx hm
    · unfold Configuration.isExtension at h
      rw [Bool.and_eq_true, List.all_eq_true] at h
      have := h.2 x hm
      rw [he] at this
      cases this
  -- the text starts with a letter, so it is none of the short names
  have ne (text : String) (ht : text.toList.head? ≠ some 't') :
      "templates." ++ extension ≠ text := by
    rintro rfl
    rw [chars] at ht
    exact ht rfl
  exact ⟨ne "" (by decide), free '/' (by decide) (by decide), free '\\' (by decide) (by decide),
    ne "." (by decide), ne ".." (by decide)⟩

/-- The paths that a build may write to: that of the classes of the templates, and those of the
bindings of interfaces. -/
def IsPlace (c : Configuration) (q : Path) : Prop :=
  q = templatesPath c ∨ ∃ r : AbiReference, IsSegment r.owner.name ∧ IsSegment r.abi ∧
    r.outputPath c.outputDir c.extension = .ok q

theorem IsPlace.extends {q : Path} (h : IsPlace c q)
    (extension : Configuration.isExtension c.extension = true) :
    ∃ ns n, ns.length ≤ 2 ∧ (∀ x ∈ ns ++ [n], IsSegment x) ∧
      q.Extends c.outputDir (ns ++ [n]) := by
  rcases h with rfl | ⟨r, -, -, hr⟩
  · have plain := isSegment_templates extension
    refine ⟨[], "templates." ++ c.extension, by decide, ?_,
      (Path.Extends.refl c.outputDir).join (Path.isName_of_isSegment plain)⟩
    rintro x (_ | ⟨_, ⟨⟩⟩)
    exact plain
  · exact ⟨r.owner.segments, r.fileName c.extension, r.owner.length_segments_le,
      extends_outputPath hr⟩

end Build

/-! ### Requests for output -/

/-- The path that a request for output is about. -/
def Event.target? : Event → Option Path
  | .dir path _ | .file path _ _ => some path
  | .read _ | .find _ | .told _ => none

/-- A request for output is about a place or its directory, and an announcement has plain names. -/
structure Event.IsOrderly (places : Path → Prop) (e : Event) : Prop where
  placed : ∀ p, e.target? = some p → ∃ q, places q ∧ (p = q ∨ q.directory? = some p)
  plain : ∀ abi owner, e.announced? = some (abi, owner) → IsSegment owner.name ∧ IsSegment abi

variable {places : Path → Prop}

theorem isOrderly_of_isPrelude {e : Event} (h : e.IsPrelude) : e.IsOrderly places := by
  refine ⟨fun p hp => ?_, fun abi owner ha => ?_⟩
  · have quiet := h.quiet
    cases e with
    | dir | file => cases quiet
    | read | find | told => cases hp
  · rw [h.unannounced] at ha
    cases ha

theorem isOrderly_of_prelude (h : Prelude t) : ∀ e ∈ t, e.IsOrderly places :=
  fun e he => isOrderly_of_isPrelude (h e he)

theorem isOrderly_progress (p : Progress) : (Event.told (.progress p)).IsOrderly places :=
  ⟨nofun, nofun⟩

theorem isOrderly_announcement {l : LoadedAbi} (owner : IsSegment l.reference.owner.name)
    (abi : IsSegment l.reference.abi) : (Generator.announcement l).IsOrderly places := by
  refine ⟨nofun, ?_⟩
  rintro _ _ ⟨⟩
  exact ⟨owner, abi⟩

/-- The requests for a file are about it and its directory. -/
theorem isOrderly_of_fileRun {path : Path} {text : String} {r : Outcome Unit}
    (h : FileRun host path text s r s' t) (hp : places path) :
    ∀ e ∈ t, e.IsOrderly places := by
  have file (granted : Bool) : (Event.file path text granted).IsOrderly places :=
    ⟨fun p h => ⟨path, hp, .inl (Option.some.inj h).symm⟩, nofun⟩
  have made {s₁ t₁} (h : DirRun host path s s₁ t₁) : ∀ e ∈ t₁, e.IsOrderly places := by
    cases h with
    | unnamed => exact fun e he => absurd he List.not_mem_nil
    | made dir =>
        rintro e (_ | ⟨_, ⟨⟩⟩)
        exact ⟨fun p h => ⟨path, hp, .inr (dir.trans h)⟩, nofun⟩
  cases h with
  | noDir dir =>
      rintro e (_ | ⟨_, ⟨⟩⟩)
      exact ⟨fun p h => ⟨path, hp, .inr (dir.trans h)⟩, nofun⟩
  | refused dir | written dir =>
      intro e he
      rcases List.mem_append.mp he with he | he
      · exact made dir e he
      · rw [List.mem_singleton.mp he]
        exact file _

/-- All requests are orderly up to some point, and none after it is for output. -/
structure Orderly (places : Path → Prop) (t : List Event) : Prop where
  split : ∃ t₁ t₂, t = t₁ ++ t₂ ∧ (∀ e ∈ t₁, e.IsOrderly places) ∧
    ∀ e ∈ t₂, e.isOutput = false

namespace Orderly

theorem of_all (h : ∀ e ∈ t, e.IsOrderly places) : Orderly places t :=
  ⟨t, [], (List.append_nil t).symm, h, fun _ he => absurd he List.not_mem_nil⟩

theorem after (h₁ : ∀ e ∈ t₁, e.IsOrderly places) (h₂ : Orderly places t₂) :
    Orderly places (t₁ ++ t₂) := by
  obtain ⟨u₁, u₂, rfl, orderly, quiet⟩ := h₂
  refine ⟨t₁ ++ u₁, u₂, (List.append_assoc ..).symm, fun e he => ?_, quiet⟩
  rcases List.mem_append.mp he with he | he
  · exact h₁ e he
  · exact orderly e he

theorem before (h : Orderly places t₁) (quiet : ∀ e ∈ t₂, e.isOutput = false) :
    Orderly places (t₁ ++ t₂) := by
  obtain ⟨u₁, u₂, rfl, orderly, quiet'⟩ := h
  exact ⟨u₁, u₂ ++ t₂, List.append_assoc .., orderly, List.forall_mem_append.mpr ⟨quiet', quiet⟩⟩

theorem placed (h : Orderly places t) {e : Event} (he : e ∈ t) {p : Path}
    (hp : e.target? = some p) : ∃ q, places q ∧ (p = q ∨ q.directory? = some p) := by
  obtain ⟨t₁, t₂, rfl, orderly, quiet⟩ := h
  rcases List.mem_append.mp he with he | he
  · exact (orderly e he).placed p hp
  · have := quiet e he
    cases e with
    | dir | file => cases this
    | read | find | told => cases hp

/-- Nothing is asked for after the announcement of a name that is not plain. -/
theorem pairwise (h : Orderly places t) : t.Pairwise fun earlier later =>
    ∀ abi owner, earlier.announced? = some (abi, owner) →
      ¬ (IsSegment owner.name ∧ IsSegment abi) → later.isOutput = false := by
  obtain ⟨t₁, t₂, rfl, orderly, quiet⟩ := h
  refine List.pairwise_append.mpr ⟨?_, ?_, ?_⟩
  · -- up to the point all announced names are plain
    exact List.pairwise_of_forall_mem_list fun e he _ _ abi owner ha refused =>
      absurd ((orderly e he).plain abi owner ha) refused
  · exact List.pairwise_of_forall_mem_list fun _ _ e he _ _ _ _ => quiet e he
  · exact fun _ _ e he _ _ _ _ => quiet e he

end Orderly

/-! ### Builds -/

namespace Generator

variable {g : Generator}

/-- Bindings that are written go to places, under plain names. -/
theorem Wrote.isOrderly {ls : List LoadedAbi} {as : List Artifact}
    (hg : ∀ (r : AbiReference) q, IsSegment r.owner.name → IsSegment r.abi →
      r.outputPath g.options.outputDir g.options.extension = .ok q → places q)
    (h : g.Wrote host s ls as s' t) : ∀ e ∈ t, e.IsOrderly places := by
  induction h with
  | nil => exact fun e he => absurd he List.not_mem_nil
  | @cons s s₁ s' l a ls as t₁ t₂ render file rest ih =>
      have path := (eq_of_render render).2
      obtain ⟨owner, abi, -, -⟩ := isSegment_of_outputPath path
      intro e he
      rcases List.mem_append.mp he with he | he
      · rcases List.mem_cons.mp he with rfl | he
        · exact isOrderly_announcement owner abi
        · exact isOrderly_of_fileRun file (hg _ _ owner abi path) e he
      · rcases List.mem_cons.mp he with rfl | he
        · exact isOrderly_progress _
        · exact ih e he
  | aside prelude rest ih =>
      intro e he
      rcases List.mem_cons.mp he with rfl | he
      · exact isOrderly_of_isPrelude prelude
      · exact ih e he

/-- Bindings under a refused name are announced, and nothing is asked for them. -/
theorem Stopped.orderly {ls : List LoadedAbi} {e : Error}
    (hg : ∀ (r : AbiReference) q, IsSegment r.owner.name → IsSegment r.abi →
      r.outputPath g.options.outputDir g.options.extension = .ok q → places q)
    (h : g.Stopped host s ls e s' t) : Orderly places t := by
  obtain ⟨rest, before, failed, after⟩ := h
  rw [List.append_assoc]
  refine .after (before.isOrderly hg) ?_
  cases failed with
  | unmade =>
      -- the announcement may be of a refused name, but nothing is asked for after it
      refine ⟨[], _, rfl, fun e he => absurd he List.not_mem_nil, fun e he => ?_⟩
      rcases List.mem_cons.mp he with rfl | he
      · rfl
      · exact (after e he).quiet
  | unwritten render file =>
      -- there is a path, so no name is refused
      have path := (eq_of_render render).2
      obtain ⟨owner, abi, -, -⟩ := isSegment_of_outputPath path
      refine .after (fun e he => ?_) (.of_all fun e he => isOrderly_of_isPrelude (after e he))
      rcases List.mem_cons.mp he with rfl | he
      · exact isOrderly_announcement owner abi
      · exact isOrderly_of_fileRun file (hg _ _ owner abi path) e he

/-- The requests of a task whose bindings can be made are orderly. -/
theorem IsOwn.isOrderly {l : LoadedAbi} {a : Artifact} {e : Event}
    (hg : ∀ (r : AbiReference) q, IsSegment r.owner.name → IsSegment r.abi →
      r.outputPath g.options.outputDir g.options.extension = .ok q → places q)
    (h : g.IsOwn l e) (render : g.render l = .ok a) : e.IsOrderly places := by
  have path := (eq_of_render render).2
  obtain ⟨owner, abi, -, -⟩ := isSegment_of_outputPath path
  have place := hg _ _ owner abi path
  cases h with
  | announcement => exact isOrderly_announcement owner abi
  | dir render' named =>
      cases render.symm.trans render'
      exact ⟨fun p hp => ⟨_, place, .inr (named.trans hp)⟩, nofun⟩
  | file render' =>
      cases render.symm.trans render'
      exact ⟨fun p hp => ⟨_, place, .inl (Option.some.inj hp).symm⟩, nofun⟩
  | success => exact isOrderly_progress _

/-- Tasks under way together ask for what is orderly, and one under a refused name is the end of
them. -/
theorem orderly_of_writeTogether {pace : Pace} {ls : List LoadedAbi} {r : Outcome (List Artifact)}
    (hg : ∀ (r : AbiReference) q, IsSegment r.owner.name → IsSegment r.abi →
      r.outputPath g.options.outputDir g.options.extension = .ok q → places q)
    (h : Runs host (g.writeTogether pace ls) s r s' t) :
    Orderly places t ∧ ∀ as, r = .ok as → ∀ e ∈ t, e.IsOrderly places := by
  have orderly {ps t} (all : g.AllTasks host ls ps t) (unfailed : Unfailed ps) :
      ∀ e ∈ t, e.IsOrderly places := fun e he =>
    let ⟨_, _, render, own⟩ := all.made unfailed e he
    own.isOrderly hg render
  have proceeds := proceeds_writeTogether h
  rcases r with cause | as
  · cases proceeds with
    | failed steps unfailed last =>
        have all := allTasks_of_interleaves steps
        obtain ⟨-, l, -, move⟩ := all.step last
        refine ⟨.after (orderly all unfailed) ?_, nofun⟩
        rcases move.announces_or with rfl | ⟨a, render⟩
        · exact ⟨[], _, rfl, fun e he => absurd he List.not_mem_nil,
            List.forall_mem_singleton.mpr rfl⟩
        · exact .of_all (List.forall_mem_singleton.mpr (move.isOwn.isOrderly hg render))
  · cases proceeds with
    | on steps unfailed =>
        have all := orderly (allTasks_of_interleaves steps) unfailed
        exact ⟨.of_all all, fun _ _ => all⟩

theorem WritesAll.orderly {pace : Pace} {ls ls' : List LoadedAbi} {r : Outcome (List Artifact)}
    (hg : ∀ (r : AbiReference) q, IsSegment r.owner.name → IsSegment r.abi →
      r.outputPath g.options.outputDir g.options.extension = .ok q → places q)
    (h : g.WritesAll host pace s ls ls' r s' t) :
    Orderly places t ∧ ∀ as, r = .ok as → ∀ e ∈ t, e.IsOrderly places := by
  cases h with
  | stopped first => exact ⟨first.orderly hg, nofun⟩
  | written first rest after =>
      have all := List.forall_mem_append.mpr ⟨List.forall_mem_append.mpr
        ⟨first.isOrderly hg, (orderly_of_writeTogether hg rest).2 _ rfl⟩, isOrderly_of_prelude after⟩
      exact ⟨.of_all all, fun _ _ => all⟩
  | failed first rest after =>
      refine ⟨?_, nofun⟩
      rw [List.append_assoc]
      refine .after (first.isOrderly hg) ?_
      exact (orderly_of_writeTogether hg rest).1.before fun e he => (after e he).quiet

end Generator

namespace Build

variable {c : Configuration} {path : Path} {f : Family} {m : Manifest} {pace : Pace}

/-- What is asked for bindings is orderly, and all of it is when they are written. -/
theorem orderly_of_bindings {r : Outcome (List Artifact)}
    (h : Runs host (writeBindings c path f m pace) s r s' t) :
    Orderly (IsPlace c) t ∧ ∀ as, r = .ok as → ∀ e ∈ t, e.IsOrderly (IsPlace c) := by
  rcases runs_bindings h with ⟨-, rfl, -, prelude⟩ | ⟨g, hg, generates⟩
  · exact ⟨.of_all (isOrderly_of_prelude prelude), fun _ _ => isOrderly_of_prelude prelude⟩
  · have options := (Family.generator_eq_present hg).1
    have places : ∀ (r : AbiReference) q, IsSegment r.owner.name → IsSegment r.abi →
        r.outputPath g.options.outputDir g.options.extension = .ok q → IsPlace c q := by
      rw [options]
      exact fun r q owner abi hr => .inr ⟨r, owner, abi, hr⟩
    rcases generates with ⟨prelude, -⟩ | ⟨ls, ls', -, -, writes⟩
    · exact ⟨.of_all (isOrderly_of_prelude prelude), fun _ _ => isOrderly_of_prelude prelude⟩
    · exact writes.orderly places

/-- All that is asked for templates is orderly. -/
theorem TemplatesRun.isOrderly {r : Outcome (Option Artifact)}
    (h : TemplatesRun host c f m s r s' t) : ∀ e ∈ t, e.IsOrderly (IsPlace c) := by
  have place : IsPlace c (templatesPath c) := .inl rfl
  cases h with
  | none => exact fun e he => absurd he List.not_mem_nil
  | written any text_eq before file after =>
      intro e he
      rcases List.mem_append.mp he with he | he
      · rcases List.mem_append.mp he with he | he
        · exact isOrderly_of_prelude before e he
        · exact isOrderly_of_fileRun file place e he
      · rcases List.mem_cons.mp he with rfl | he
        · exact isOrderly_progress _
        · exact isOrderly_of_prelude after e he
  | unmade any text_eq prelude => exact isOrderly_of_prelude prelude
  | unwritten any text_eq before file after =>
      intro e he
      rcases List.mem_append.mp he with he | he
      · rcases List.mem_append.mp he with he | he
        · exact isOrderly_of_prelude before e he
        · exact isOrderly_of_fileRun file place e he
      · exact isOrderly_of_prelude after e he

/-- What a build asks for is orderly. -/
theorem orderly_of_run {r : Outcome BuildSummary} (h : Runs host (run c path pace) s r s' t) :
    Orderly (IsPlace c) t := by
  rcases runs_run h with ⟨prelude, -⟩ | ⟨m, f, report, t₁, t₂, -, p₁, writes, rfl⟩
  · exact .of_all (isOrderly_of_prelude prelude)
  refine .after (isOrderly_of_prelude p₁) ?_
  rcases writes with ⟨e, -, bindings⟩ | ⟨as, s₁, t₃, t₄, o, bindings, templates, rfl, -⟩
  · exact (orderly_of_bindings bindings).1
  · exact .after ((orderly_of_bindings bindings).2 as rfl) (.of_all templates.isOrderly)

/-- A path is `root`, or `root` with one to three plain names at its end. -/
def IsInside (root p : Path) : Prop :=
  ∃ names, names.length ≤ 3 ∧ (∀ name ∈ names, IsSegment name) ∧ p.parts = root.parts ++ names

/-- A place and its directory are in the output directory. -/
theorem IsPlace.isInside {p q : Path} (h : IsPlace c q)
    (extension : Configuration.isExtension c.extension = true)
    (hp : p = q ∨ q.directory? = some p) : IsInside c.outputDir p := by
  obtain ⟨ns, n, hlen, plain, hq⟩ := h.extends extension
  rcases hp with rfl | hp
  · refine ⟨ns ++ [n], ?_, plain, hq.parts⟩
    rw [List.length_append, List.length_singleton]
    omega
  · exact ⟨ns, by omega, fun x hx => plain x (List.mem_append_left _ hx), (hq.directory? hp).parts⟩

/-- What the build of a manifest asks for is in its output directory.

Every path is that directory or lies one to three plain names below; it is the path of the classes
of the templates, or that of the bindings of an interface with plain names, or the directory of one
of these.  Once an interface is announced whose name or whose owner's name is not plain, nothing
more is asked for. -/
structure StaysInside (host : Host σ) (c : Configuration) (path : Path) (pace : Pace) (s : σ) :
    Prop where
  inside : ∀ e ∈ (Program.run host (run c path pace).run s).trace, ∀ p, e.target? = some p →
    IsInside c.outputDir p
  placed : ∀ e ∈ (Program.run host (run c path pace).run s).trace, ∀ p, e.target? = some p →
    ∃ q, IsPlace c q ∧ (p = q ∨ q.directory? = some p)
  refused : (Program.run host (run c path pace).run s).trace.Pairwise fun earlier later =>
    ∀ abi owner, earlier.announced? = some (abi, owner) →
      ¬ (IsSegment owner.name ∧ IsSegment abi) → later.isOutput = false

/-- **A build stays in its output directory**, whatever the names in its manifest are. -/
theorem run_stays_inside (host : Host σ) (c : Configuration) (path : Path) (pace : Pace) (s : σ)
    (extension : Configuration.isExtension c.extension = true) :
    StaysInside host c path pace s := by
  have orderly := orderly_of_run (runs_self host (run c path pace) s)
  refine ⟨fun e he p hp => ?_, fun e he p hp => orderly.placed he hp, orderly.pairwise⟩
  obtain ⟨q, place, hq⟩ := orderly.placed he hp
  exact place.isInside extension hq

/-- A manifest with a data source whose name leads elsewhere. -/
def escapingName : List (Path × String) :=
  [(⟨"bank.json"⟩, "[]"), (⟨"m"⟩, "dataSources:\n" ++
    "- {kind: tendermint/data, name: Bank, mapping: {abis: [{name: Bank, file: bank.json}]}}\n" ++
    "- {kind: tendermint/data, name: ../up, mapping: {abis: [{name: Bank, file: bank.json}]}}\n")]

theorem run_stays_inside_escapingName :
    StaysInside inMemory { skipValidation := true } ⟨"m"⟩ [] escapingName :=
  run_stays_inside _ _ _ _ _ (by decide)

end Build

end Subgraph

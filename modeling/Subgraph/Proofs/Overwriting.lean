import Subgraph.Proofs.Artifacts
import Subgraph.Proofs.Places

/-!
# Overwriting — files that are written over a state, one after the other

A build writes its files in order, and a later file may have the place of an earlier one.  What is
at a place in the end depends on the state at the start and on the list of files alone.

* `TreeView.Lasts`: what was a directory stays one, and what was a file stays a file.
* `TreeView.Laid`: some files have been written over a state, each after its directories were made.
* `laid_of_fileRun`, `Laid.append`: one file, and then others.
* `Laid.again`: the same files, written once more, change nothing.
* `Generator.Wrote.laid`, `Build.TemplatesRun.laid`: what a build does is of this kind.
-/

namespace Subgraph

open Subgraph.Action

variable {σ : Type} {host : Host σ} {view : TreeView σ} {s s' s₁ s₂ : σ} {t : List Event}

/-- An earlier text stays where no other is written. -/
theorem overwritten_eq_or {κ : Type} [DecidableEq κ] (key : Path → κ) (files : κ → Option String)
    (as : List Artifact) (k : κ) :
    overwritten key files as k = (overwritten key (fun _ => none) as k).or (files k) := by
  induction as generalizing files with
  | nil => rfl
  | cons a as ih =>
      have first := ih (Function.update files (key a.path) (some a.text))
      have second := ih (Function.update (fun _ => none) (key a.path) (some a.text))
      rw [show overwritten key files (a :: as) k = _ from first,
        show overwritten key (fun _ => none) (a :: as) k = _ from second]
      by_cases here : k = key a.path
      · subst here
        rw [Function.update_self, Function.update_self, Option.or_assoc]
        rfl
      · rw [Function.update_of_ne here, Function.update_of_ne here, Option.or_none]

namespace TreeView

/-- Only a path that names a directory has places above it. -/
def IsNamed (view : TreeView σ) : Prop :=
  ∀ ⦃path place⦄, view.Above path place → ∃ dir, path.directory? = some dir

/-- What was a directory still is, and what was a file still is one. -/
structure Lasts (view : TreeView σ) (s s' : σ) : Prop where
  dirs : ∀ {place}, view.node? s place = some .dir → view.node? s' place = some .dir
  files : ∀ {place c}, view.node? s place = some (.file c) →
    ∃ c', view.node? s' place = some (.file c')

theorem Lasts.refl (view : TreeView σ) (s : σ) : view.Lasts s s := ⟨id, fun h => ⟨_, h⟩⟩

theorem Lasts.trans (h : view.Lasts s s₁) (h₁ : view.Lasts s₁ s') : view.Lasts s s' := by
  refine ⟨fun dir => h₁.dirs (h.dirs dir), fun file => ?_⟩
  obtain ⟨c, file⟩ := h.files file
  exact h₁.files file

/-- The text that was written last at a place. -/
def written (view : TreeView σ) (as : List Artifact) : FilePlace → Option String :=
  overwritten view.place (fun _ => none) as

theorem written_append (as bs : List Artifact) (place : FilePlace) :
    view.written (as ++ bs) place = (view.written bs place).or (view.written as place) := by
  unfold written
  rw [overwritten, List.foldl_append]
  exact overwritten_eq_or view.place _ bs place

theorem written_singleton (a : Artifact) : view.written [a] (view.place a.path) = some a.text := by
  unfold written overwritten
  rw [List.foldl_cons, List.foldl_nil, Function.update_self]

theorem written_of_forall_ne {as : List Artifact} {place : FilePlace}
    (h : ∀ a ∈ as, view.place a.path ≠ place) : view.written as place = none :=
  overwritten_of_forall_ne h _

theorem exists_of_written {as : List Artifact} {place : FilePlace} {text : String}
    (h : view.written as place = some text) : ∃ a ∈ as, view.place a.path = place := by
  by_contra none
  push Not at none
  rw [written_of_forall_ne none] at h
  cases h

/-- Something has been written at the place of each file. -/
theorem exists_written {as : List Artifact} {a : Artifact} (h : a ∈ as) :
    ∃ text, view.written as (view.place a.path) = some text := by
  obtain ⟨before, after, rfl⟩ := List.append_of_mem h
  rw [← List.singleton_append, written_append, written_append, written_singleton]
  rcases view.written after (view.place a.path) with _ | text
  · exact ⟨a.text, rfl⟩
  · exact ⟨text, rfl⟩

/-- Some files have been written over the state `s`, one after the other, each after its
directories were made. -/
structure Laid (view : TreeView σ) (as : List Artifact) (s s' : σ) : Prop where
  /-- There was no file in the way. -/
  free : ∀ {a place c}, a ∈ as → view.Above a.path place → view.node? s place ≠ some (.file c)
  /-- There was no directory where a file is now. -/
  clear : ∀ {a}, a ∈ as → view.node? s (view.place a.path) ≠ some .dir
  dirs : ∀ {a place}, a ∈ as → view.Above a.path place → view.node? s' place = some .dir
  files : ∀ {place text}, view.written as place = some text →
    view.node? s' place = some (.file (.text text))
  rest : ∀ {place}, (∀ a ∈ as, ¬ view.Above a.path place) → view.written as place = none →
    view.node? s' place = view.node? s place

namespace Laid

variable {as bs : List Artifact}

theorem nil : view.Laid [] s s := ⟨nofun, nofun, nofun, nofun, fun _ _ => rfl⟩

/-- A place is a directory that has been made, a file that has been written, or as it was. -/
theorem node?_cases (h : view.Laid as s s') (place : FilePlace) :
    (∃ a ∈ as, view.Above a.path place) ∨ (∃ text, view.written as place = some text) ∨
      view.node? s' place = view.node? s place := by
  by_cases dirs : ∃ a ∈ as, view.Above a.path place
  · exact .inl dirs
  · rcases written : view.written as place with _ | text
    · push Not at dirs
      exact .inr (.inr (h.rest dirs written))
    · exact .inr (.inl ⟨text, rfl⟩)

theorem lasts (h : view.Laid as s s') : view.Lasts s s' := by
  refine ⟨fun {place} was => ?_, fun {place c} was => ?_⟩
  · rcases h.node?_cases place with ⟨a, ha, above⟩ | ⟨text, written⟩ | same
    · exact h.dirs ha above
    · obtain ⟨a, ha, rfl⟩ := exists_of_written written
      exact absurd was (h.clear ha)
    · exact same.trans was
  · rcases h.node?_cases place with ⟨a, ha, above⟩ | ⟨text, written⟩ | same
    · exact absurd was (h.free ha above)
    · exact ⟨_, h.files written⟩
    · exact ⟨c, same.trans was⟩

/-- A file that was not written over is as it was. -/
theorem file_eq (h : view.Laid as s s') {place : FilePlace} {c : FileContent}
    (was : view.node? s place = some (.file c)) (apart : ∀ a ∈ as, view.place a.path ≠ place) :
    view.node? s' place = some (.file c) :=
  (h.rest (fun _ ha above => h.free ha above was) (written_of_forall_ne apart)).trans was

/-- **Some files, and then others.** -/
theorem append (h : view.Laid as s s₁) (h₁ : view.Laid bs s₁ s') :
    view.Laid (as ++ bs) s s' := by
  have lasts := h.lasts
  have lasts₁ := h₁.lasts
  refine ⟨fun {a place c} ha above was => ?_, fun {a} ha was => ?_, fun {a place} ha above => ?_,
    fun {place text} written => ?_, fun {place} dirs none => ?_⟩
  · rcases List.mem_append.mp ha with ha | ha
    · exact h.free ha above was
    · obtain ⟨c', file⟩ := lasts.files was
      exact h₁.free ha above file
  · rcases List.mem_append.mp ha with ha | ha
    · exact h.clear ha was
    · exact h₁.clear ha (lasts.dirs was)
  · rcases List.mem_append.mp ha with ha | ha
    · exact lasts₁.dirs (h.dirs ha above)
    · exact h₁.dirs ha above
  · rw [written_append, Option.or_eq_some_iff] at written
    rcases written with later | ⟨none, earlier⟩
    · exact h₁.files later
    · have file := h.files earlier
      exact (h₁.rest (fun a ha above => h₁.free ha above file) none).trans file
  · rw [written_append, Option.or_eq_none_iff] at none
    obtain ⟨later, earlier⟩ := none
    rw [h₁.rest (fun a ha => dirs a (List.mem_append_right _ ha)) later,
      h.rest (fun a ha => dirs a (List.mem_append_left _ ha)) earlier]

/-- **Files that are written once more** change nothing. -/
theorem again (h : view.Laid as s s₁) (h₁ : view.Laid as s₁ s') (place : FilePlace) :
    view.node? s' place = view.node? s₁ place := by
  rcases h₁.node?_cases place with ⟨a, ha, above⟩ | ⟨text, written⟩ | same
  · rw [h₁.dirs ha above, h.dirs ha above]
  · rw [h₁.files written, h.files written]
  · exact same

end Laid

/-! ### One file -/

/-- The directories of a file, if it has any. -/
theorem housed_of_dirRun (keeps : host.Keeps view) (named : view.IsNamed) (sound : view.Sound s)
    {path : Path} (h : DirRun host path s s' t) : view.Sound s' ∧ view.Housed s s' path := by
  cases h with
  | unnamed none =>
      have nowhere : ∀ place, ¬ view.Above path place := fun place above => by
        obtain ⟨dir, some⟩ := named above
        cases none.symm.trans some
      exact ⟨sound, fun place _ above => absurd above (nowhere place),
        fun place above => absurd above (nowhere place), fun _ _ => rfl⟩
  | made some granted =>
      exact ⟨keeps.sound_ensureDir sound some granted, keeps.housed sound some granted⟩

theorem Housed.lasts {path : Path} (h : view.Housed s s' path) : view.Lasts s s' := by
  refine ⟨fun {place} was => ?_, fun {place c} was => ?_⟩
  · by_cases above : view.Above path place
    · exact h.dirs place above
    · exact (h.rest place above).trans was
  · by_cases above : view.Above path place
    · exact absurd was (h.free place c above)
    · exact ⟨c, (h.rest place above).trans was⟩

theorem Filed.lasts {path : Path} {text : String} (h : view.Filed s s' path text) :
    view.Lasts s s' := by
  refine ⟨fun {place} was => ?_, fun {place c} was => ?_⟩
  · rw [h.rest place fun same => h.free (same ▸ was)]
    exact was
  · by_cases here : place = view.place path
    · rw [here]
      exact ⟨_, h.file⟩
    · exact ⟨c, (h.rest place here).trans was⟩

/-- The directories of a file have been made, and then the file has been written. -/
theorem laid_of_housed {a : Artifact} (h : view.Housed s s₁ a.path)
    (h₁ : view.Filed s₁ s' a.path a.text) : view.Laid [a] s s' := by
  have one {P : Artifact → Prop} (h : P a) {b : Artifact} (hb : b ∈ [a]) : P b := by
    rw [List.mem_singleton.mp hb]
    exact h
  refine ⟨fun {b place c} hb => ?_, fun {b} hb => ?_, fun {b place} hb => ?_,
    fun {place text} written => ?_, fun {place} dirs none => ?_⟩
  · exact one (P := fun b => view.Above b.path place → _) (h.free place c) hb
  · exact one (P := fun b => view.node? s (view.place b.path) ≠ some .dir)
      (fun was => h₁.free (h.lasts.dirs was)) hb
  · exact one (P := fun b => view.Above b.path place → _)
      (fun above => h₁.lasts.dirs (h.dirs place above)) hb
  · obtain ⟨b, hb, rfl⟩ := exists_of_written written
    cases List.mem_singleton.mp hb
    rw [written_singleton] at written
    cases written
    exact h₁.file
  · have elsewhere : place ≠ view.place a.path := by
      rintro rfl
      rw [written_singleton] at none
      cases none
    rw [h₁.rest place elsewhere, h.rest place (dirs a (List.mem_singleton.mpr rfl))]

/-- **A file that is written** is laid over the state. -/
theorem laid_of_fileRun (keeps : host.Keeps view) (named : view.IsNamed) (sound : view.Sound s)
    {path : Path} {text : String} (h : FileRun host path text s (.ok ()) s' t) :
    view.Sound s' ∧ view.Laid [⟨path, text⟩] s s' := by
  cases h with
  | written dir granted =>
      obtain ⟨sound₁, housed⟩ := housed_of_dirRun keeps named sound dir
      exact ⟨keeps.sound_write sound₁ granted, laid_of_housed (a := ⟨path, text⟩) housed
        (keeps.filed sound₁ granted)⟩

end TreeView

/-! ### Builds -/

theorem Generator.Wrote.laid {g : Generator} {ls : List LoadedAbi} {as : List Artifact}
    (keeps : host.Keeps view) (named : view.IsNamed) (sound : view.Sound s)
    (h : g.Wrote host s ls as s' t) : view.Sound s' ∧ view.Laid as s s' := by
  induction h with
  | nil => exact ⟨sound, .nil⟩
  | cons render file rest ih =>
      obtain ⟨sound₁, first⟩ := TreeView.laid_of_fileRun keeps named sound file
      obtain ⟨sound', others⟩ := ih sound₁
      exact ⟨sound', first.append others⟩
  | aside prelude rest ih => exact ih sound

theorem Build.TemplatesRun.laid {c : Configuration} {f : Family} {m : Manifest}
    {a? : Option Artifact} (keeps : host.Keeps view) (named : view.IsNamed) (sound : view.Sound s)
    (h : TemplatesRun host c f m s (.ok a?) s' t) : view.Sound s' ∧ view.Laid a?.toList s s' := by
  cases h with
  | none => exact ⟨sound, .nil⟩
  | written any text_eq before file => exact TreeView.laid_of_fileRun keeps named sound file

end Subgraph

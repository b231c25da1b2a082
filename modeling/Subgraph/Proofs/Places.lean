import Mathlib.Data.Set.Insert
import Subgraph.FileTree
import Subgraph.Generation
import Subgraph.Proofs.Components

/-!
# Places — hosts that keep files in directories

Nothing is known of a host but its answers.  A `TreeView` sees its states as files and directories
at places, and `Host.Keeps` says that the host makes directories and writes files there, and that
whether it does depends on what is in the way and on nothing else.

* `Overlaid`: some directories and files have been laid over a state.
* `Overlaid.house`, `Overlaid.file`: one more directory, and one more file.
* `Overlaid.node?_eq`: it does not matter in which order they were laid.
* `Overlaid.exists_house`, `Overlaid.exists_file`: what has been laid over a state in one order can
  be laid over it in any other.
-/

namespace Subgraph

variable {σ : Type}

/-- How the states of a host are seen as files in directories. -/
structure TreeView (σ : Type) where
  /-- Nothing lies in a directory that is not there. -/
  Sound : σ → Prop
  /-- What is at a place. -/
  node? : σ → FilePlace → Option FileNode
  /-- The place that a path leads to. -/
  place : Path → FilePlace
  /-- A place is on the way to the directory of a path, or is that directory. -/
  Above : Path → FilePlace → Prop

namespace TreeView

variable (view : TreeView σ)

/-- The directories on the way to a path have been made, where no file was, and nothing else has
changed. -/
structure Housed (s s' : σ) (path : Path) : Prop where
  free : ∀ place c, view.Above path place → view.node? s place ≠ some (.file c)
  dirs : ∀ place, view.Above path place → view.node? s' place = some .dir
  rest : ∀ place, ¬ view.Above path place → view.node? s' place = view.node? s place

/-- A file has been written where no directory was, and nothing else has changed. -/
structure Filed (s s' : σ) (path : Path) (text : String) : Prop where
  free : view.node? s (view.place path) ≠ some .dir
  file : view.node? s' (view.place path) = some (.file (.text text))
  rest : ∀ place, place ≠ view.place path → view.node? s' place = view.node? s place

end TreeView

/-- A host keeps files in directories.

What is asked of it succeeds for one of two reasons only: what is in the way, and the path itself.
So a directory that could be made once can be made wherever no file is on the way, and a file that
could be written once can be written wherever its directory is there and it is no directory. -/
structure Host.Keeps (host : Host σ) (view : TreeView σ) : Prop where
  place_extends : ∀ {path root : Path} {ns : List String}, path.Extends root ns →
    (∀ n ∈ ns, IsSegment n) → view.place path = ns.reverse ++ view.place root
  sound_ensureDir : ∀ {s s' : σ} {path dir : Path}, view.Sound s → path.directory? = some dir →
    host.ensureDir s dir = .ok s' → view.Sound s'
  housed : ∀ {s s' : σ} {path dir : Path}, view.Sound s → path.directory? = some dir →
    host.ensureDir s dir = .ok s' → view.Housed s s' path
  exists_ensureDir : ∀ {s s₁ s₁' : σ} {path dir : Path}, path.directory? = some dir →
    view.Sound s₁ → host.ensureDir s₁ dir = .ok s₁' → view.Sound s →
      (∀ place c, view.Above path place → view.node? s place ≠ some (.file c)) →
        ∃ s', host.ensureDir s dir = .ok s'
  sound_write : ∀ {s s' : σ} {path : Path} {text : String}, view.Sound s →
    host.write s path text = .ok s' → view.Sound s'
  filed : ∀ {s s' : σ} {path : Path} {text : String}, view.Sound s →
    host.write s path text = .ok s' → view.Filed s s' path text
  exists_write : ∀ {s s₁ s₁' : σ} {path dir : Path} {text : String}, path.directory? = some dir →
    view.Sound s₁ → host.write s₁ path text = .ok s₁' → view.Sound s →
      (∀ place, view.Above path place → view.node? s place = some .dir) →
        view.node? s (view.place path) ≠ some .dir → ∃ s', host.write s path text = .ok s'

variable {host : Host σ} {view : TreeView σ} {s₀ s s' s₁ : σ} {a : Artifact} {dir : Path}
variable {housed filed housed₁ filed₁ : Set Artifact}

/-- The directories of some files, and some files, have been laid over the state `s₀`. -/
structure Overlaid (host : Host σ) (view : TreeView σ) (s₀ : σ) (housed filed : Set Artifact)
    (s : σ) : Prop where
  sound : view.Sound s
  dirs : ∀ {a place}, a ∈ housed → view.Above a.path place → view.node? s place = some .dir
  files : ∀ {a}, a ∈ filed → view.node? s (view.place a.path) = some (.file (.text a.text))
  rest : ∀ {place}, (∀ a ∈ housed, ¬ view.Above a.path place) →
    (∀ a ∈ filed, place ≠ view.place a.path) → view.node? s place = view.node? s₀ place
  /-- There was no file in the way. -/
  free : ∀ {a place c}, a ∈ housed → view.Above a.path place → view.node? s₀ place ≠ some (.file c)
  /-- There was no directory where a file is now. -/
  clear : ∀ {a}, a ∈ filed → view.node? s₀ (view.place a.path) ≠ some .dir
  dir_granted : ∀ {a dir}, a ∈ housed → a.path.directory? = some dir →
    ∃ s₁ s₂, view.Sound s₁ ∧ host.ensureDir s₁ dir = .ok s₂
  file_granted : ∀ {a}, a ∈ filed → ∃ s₁ s₂, view.Sound s₁ ∧ host.write s₁ a.path a.text = .ok s₂

namespace Overlaid

theorem refl (h : view.Sound s) : Overlaid host view s ∅ ∅ s where
  sound := h
  dirs := nofun
  files := nofun
  rest _ _ := rfl
  free := nofun
  clear := nofun
  dir_granted := nofun
  file_granted := nofun

/-- A place is a directory that has been laid, a file that has been laid, or as it was. -/
theorem node?_cases (h : Overlaid host view s₀ housed filed s) (place : FilePlace) :
    (∃ a ∈ housed, view.Above a.path place) ∨ (∃ a ∈ filed, place = view.place a.path) ∨
      view.node? s place = view.node? s₀ place := by
  by_cases dirs : ∃ a ∈ housed, view.Above a.path place
  · exact .inl dirs
  by_cases files : ∃ a ∈ filed, place = view.place a.path
  · exact .inr (.inl files)
  · push Not at dirs files
    exact .inr (.inr (h.rest dirs files))

/-- **It does not matter in which order things were laid over a state.** -/
theorem node?_eq (h : Overlaid host view s₀ housed filed s)
    (h₁ : Overlaid host view s₀ housed filed s₁) (place : FilePlace) :
    view.node? s place = view.node? s₁ place := by
  rcases h.node?_cases place with ⟨a, ha, above⟩ | ⟨a, ha, rfl⟩ | same
  · rw [h.dirs ha above, h₁.dirs ha above]
  · rw [h.files ha, h₁.files ha]
  · rcases h₁.node?_cases place with ⟨a, ha, above⟩ | ⟨a, ha, rfl⟩ | same₁
    · rw [h.dirs ha above, h₁.dirs ha above]
    · rw [h.files ha, h₁.files ha]
    · rw [same, same₁]

/-- The directories of one more file. -/
theorem house (keeps : host.Keeps view) (h : Overlaid host view s₀ housed filed s)
    (named : a.path.directory? = some dir) (made : host.ensureDir s dir = .ok s') :
    Overlaid host view s₀ (insert a housed) filed s' := by
  have step := keeps.housed h.sound named made
  have unhoused {b} (hb : b ∈ filed) : ¬ view.Above a.path (view.place b.path) :=
    fun above => step.free _ _ above (h.files hb)
  refine ⟨keeps.sound_ensureDir h.sound named made, ?_, ?_, ?_, ?_, h.clear, ?_, h.file_granted⟩
  · rintro b place hb above
    by_cases above' : view.Above a.path place
    · exact step.dirs place above'
    · rcases hb with rfl | hb
      · exact absurd above above'
      · rw [step.rest place above']
        exact h.dirs hb above
  · intro b hb
    rw [step.rest _ (unhoused hb)]
    exact h.files hb
  · intro place dirs files
    rw [step.rest place (dirs a (.inl rfl))]
    exact h.rest (fun b hb => dirs b (.inr hb)) files
  · rintro b place c (rfl | hb) above was
    · -- a file that was on the way would be there still
      rcases h.node?_cases place with ⟨b, hb, above'⟩ | ⟨b, hb, rfl⟩ | same
      · exact h.free hb above' was
      · exact unhoused hb above
      · exact step.free place c above (same.trans was)
    · exact h.free hb above was
  · rintro b dir' (rfl | hb) named'
    · cases named.symm.trans named'
      exact ⟨s, s', h.sound, made⟩
    · exact h.dir_granted hb named'

/-- One more file, at a place that no other file has. -/
theorem file (keeps : host.Keeps view) (h : Overlaid host view s₀ housed filed s)
    (apart : ∀ b ∈ filed, view.place b.path = view.place a.path → b = a)
    (written : host.write s a.path a.text = .ok s') :
    Overlaid host view s₀ housed (insert a filed) s' := by
  have step := keeps.filed h.sound written
  have unhoused {b} (hb : b ∈ housed) : ¬ view.Above b.path (view.place a.path) :=
    fun above => step.free (h.dirs hb above)
  refine ⟨keeps.sound_write h.sound written, ?_, ?_, ?_, h.free, ?_, h.dir_granted, ?_⟩
  · intro b place hb above
    rw [step.rest place fun same => unhoused hb (same ▸ above)]
    exact h.dirs hb above
  · rintro b (rfl | hb)
    · exact step.file
    · by_cases same : view.place b.path = view.place a.path
      · rw [apart b hb same]
        exact step.file
      · rw [step.rest _ same]
        exact h.files hb
  · intro place dirs files
    rw [step.rest place (files a (.inl rfl))]
    exact h.rest dirs fun b hb => files b (.inr hb)
  · rintro b (rfl | hb) was
    · -- a directory that was there would be there still
      rcases h.node?_cases (view.place b.path) with ⟨a, ha, above⟩ | ⟨a, ha, same⟩ | same
      · exact unhoused ha above
      · cases apart a ha same.symm
        exact h.clear ha was
      · exact step.free (same.trans was)
    · exact h.clear hb was
  · rintro b (rfl | hb)
    · exact ⟨s, s', h.sound, written⟩
    · exact h.file_granted hb

/-! ### Another order -/

/-- Directories that have been laid over a state can be laid over it when less has been. -/
theorem exists_house (keeps : host.Keeps view) (whole : Overlaid host view s₀ housed₁ filed₁ s₁)
    (h : Overlaid host view s₀ housed filed s) (less : filed ⊆ filed₁) (ha : a ∈ housed₁)
    (named : a.path.directory? = some dir) : ∃ s', host.ensureDir s dir = .ok s' := by
  obtain ⟨s₂, s₃, sound, granted⟩ := whole.dir_granted ha named
  refine keeps.exists_ensureDir named sound granted h.sound fun place c above blocked => ?_
  rcases h.node?_cases place with ⟨b, hb, above'⟩ | ⟨b, hb, rfl⟩ | same
  · rw [h.dirs hb above'] at blocked
    cases blocked
  · have file := whole.files (less hb)
    rw [whole.dirs ha above] at file
    cases file
  · exact whole.free ha above (same.symm.trans blocked)

/-- A file that has been laid over a state can be laid over it when less has been, once its
directory is there. -/
theorem exists_file (keeps : host.Keeps view) (whole : Overlaid host view s₀ housed₁ filed₁ s₁)
    (h : Overlaid host view s₀ housed filed s) (less : housed ⊆ housed₁) (ha : a ∈ filed₁)
    (housed_a : a ∈ housed) (named : a.path.directory? = some dir) :
    ∃ s', host.write s a.path a.text = .ok s' := by
  obtain ⟨s₂, s₃, sound, granted⟩ := whole.file_granted ha
  refine keeps.exists_write named sound granted h.sound (fun _ => h.dirs housed_a) fun blocked => ?_
  rcases h.node?_cases (view.place a.path) with ⟨b, hb, above⟩ | ⟨b, hb, same⟩ | same
  · have dir := whole.dirs (less hb) above
    rw [whole.files ha] at dir
    cases dir
  · rw [same, h.files hb] at blocked
    cases blocked
  · exact whole.clear ha (same.symm.trans blocked)

end Overlaid

end Subgraph

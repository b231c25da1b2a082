import Mathlib.Data.List.Induction
import Mathlib.Data.List.Infix
import Subgraph.Proofs.Overwriting

/-!
# PlainFiles — hosts that refuse nothing but clashes

A host may refuse a directory because there is a file, and a file because there is a directory.  A
`PlainFiles` host refuses nothing else: it has no bounds on names, and no name is special.

* `Host.RefusesOnlyClashes`: what is known of such hosts.
* `above_iff`: the directories on the way to a path, by the names at its end.
* `PlainFiles.refusesOnlyClashes`: plain files are such a host.
-/

namespace Subgraph

/-! ### Paths with names at their end -/

namespace Path

variable {p q root : Path} {x y : List String}

/-- A path is another one with some plain names at its end, at least one. -/
structure IsBelow (p root : Path) (x : List String) : Prop where
  some : x ≠ []
  plain : ∀ n ∈ x, IsSegment n
  ends : p.Extends root x

theorem exists_extends (plain : ∀ n ∈ x, IsSegment n) (root : Path) :
    ∃ p : Path, p.Extends root x := by
  induction x using List.reverseRecOn with
  | nil => exact ⟨root, .refl root⟩
  | append_singleton x n ih =>
      obtain ⟨others, last⟩ := List.forall_mem_append.mp plain
      obtain ⟨p, h⟩ := ih others
      exact ⟨p.join ⟨n⟩, h.join (isName_of_isSegment (last n List.mem_cons_self))⟩

/-- The last of the names at the end of a path. -/
theorem Extends.cancel (h : p.Extends root (x ++ y)) (hq : q.Extends root x) : p.Extends q y :=
  ⟨h.start.trans hq.start.symm, by rw [h.names, hq.names, List.append_assoc]⟩

end Path

variable {σ : Type}

/-- A host that keeps files in directories, and refuses to do so for no other reason than that there
is a file where a directory should be, or a directory where a file should be. -/
structure Host.RefusesOnlyClashes (host : Host σ) (view : TreeView σ) : Prop
    extends host.Keeps view where
  named : view.IsNamed
  /-- Files in one directory have the same directories. -/
  above_sibling : ∀ {p q root : Path} {n k : String}, p.Extends root [n] → IsSegment n →
    q.Extends root [k] → IsSegment k → ∀ place, view.Above p place ↔ view.Above q place
  /-- The directories of what is in a directory are that one, and those of it. -/
  above_child : ∀ {p q root : Path} {n k : String}, p.Extends q [n] → IsSegment n →
    q.Extends root [k] → IsSegment k →
      ∀ place, view.Above p place ↔ view.Above q place ∨ place = view.place q
  ensures : ∀ {s : σ} {path dir : Path}, view.Sound s → path.directory? = some dir →
    (∀ place c, view.Above path place → view.node? s place ≠ some (.file c)) →
      ∃ s', host.ensureDir s dir = .ok s'
  writes : ∀ {s : σ} {path : Path}, view.Sound s →
    (∀ place, view.Above path place → view.node? s place = some .dir) →
      view.node? s (view.place path) ≠ some .dir → ∀ text, ∃ s', host.write s path text = .ok s'

namespace Host.RefusesOnlyClashes

variable {host : Host σ} {view : TreeView σ} {p q root : Path} {x : List String} {k : String}

/-- **The directories of a path below another one** are those of any other path there, and those
that its own names lead to. -/
theorem above_iff (only : host.RefusesOnlyClashes view) (h : p.IsBelow root x)
    (hq : q.IsBelow root [k]) (place : FilePlace) : view.Above p place ↔ view.Above q place ∨
      ∃ y, y ≠ [] ∧ y <+: x ∧ y ≠ x ∧ place = y.reverse ++ view.place root := by
  have segment : IsSegment k := hq.plain k List.mem_cons_self
  obtain ⟨some, plain, ends⟩ := h
  induction x using List.reverseRecOn generalizing p with
  | nil => exact absurd rfl some
  | append_singleton x n ih =>
      obtain ⟨others, last⟩ := List.forall_mem_append.mp plain
      have last : IsSegment n := last n List.mem_cons_self
      rcases List.eq_nil_or_concat' x with rfl | ⟨before, n', rfl⟩
      · -- the path is beside the other one
        rw [only.above_sibling ends last hq.ends segment place, or_iff_left]
        rintro ⟨y, some, sub, ne, -⟩
        rcases List.prefix_concat_iff.mp sub with rfl | sub
        · exact ne rfl
        · exact some (List.prefix_nil.mp sub)
      · -- it is in a directory below
        obtain ⟨others', last'⟩ := List.forall_mem_append.mp others
        obtain ⟨dir, hdir⟩ := Path.exists_extends others root
        obtain ⟨above, habove⟩ := Path.exists_extends others' root
        have on_way : view.Above dir place ↔ _ := ih (by simp) others hdir
        rw [only.above_child (ends.cancel hdir) last (hdir.cancel habove)
          (last' n' List.mem_cons_self) place, on_way, only.place_extends hdir others, or_assoc]
        refine or_congr_right ⟨?_, ?_⟩
        · rintro (⟨y, some, sub, -, rfl⟩ | rfl)
          · refine ⟨y, some, sub.trans (List.prefix_append _ _), fun same => ?_, rfl⟩
            have long := sub.length_le
            rw [same, List.length_append, List.length_singleton] at long
            omega
          · exact ⟨_, by simp, List.prefix_append _ _, by simp, rfl⟩
        · rintro ⟨y, some, sub, ne, rfl⟩
          rcases List.prefix_concat_iff.mp sub with rfl | sub
          · exact absurd rfl ne
          · by_cases same : y = before ++ [n']
            · exact .inr (by rw [same])
            · exact .inl ⟨y, some, sub, same, rfl⟩

end Host.RefusesOnlyClashes

/-! ### Plain files -/

/-- Files and directories by their places. -/
abbrev PlainFiles := FilePlace → Option FileNode

namespace PlainFiles

/-- The place of a path: its names and its start, the last name first. -/
def place (path : Path) : FilePlace := path.parts.reverse

/-- The places on the way to a directory, and that of the directory. -/
def way (dir : Path) : List FilePlace := (place dir).tails.filter (· ≠ [])

def isFile (files : PlainFiles) (q : FilePlace) : Bool :=
  match files q with
  | some (.file _) => true
  | _ => false

/-- A host that keeps plain files.  It makes all directories on the way at once, and it knows no
bounds on names. -/
def host : Host PlainFiles where
  read files path :=
    match files (place path) with
    | some (.file (.text text)) => .ok text
    | some (.file .other) => .error .notText
    | some .dir => .error .isDirectory
    | none => .error .notFound
  isPresent files path := (files (place path)).isSome
  ensureDir files dir :=
    if (way dir).any files.isFile then .error .notDirectory
    else .ok fun q => if q ∈ way dir then some .dir else files q
  write files path text :=
    if files (place path) = some .dir then .error .isDirectory
    else .ok (Function.update files (place path) (some (.file (.text text))))

/-- Plain files as files in directories. -/
def view : TreeView PlainFiles where
  Sound _ := True
  node? files := files
  place := place
  Above path q := ∃ dir, path.directory? = some dir ∧ q ∈ way dir

/-- The text of the file at a place. -/
def text? (files : PlainFiles) (q : FilePlace) : Option String :=
  match files q with
  | some (.file (.text text)) => some text
  | _ => none

variable {files files' : PlainFiles} {p dir root : Path} {q : FilePlace}

theorem mem_way_iff : q ∈ way dir ↔ q ≠ [] ∧ q <:+ place dir := by
  unfold way
  rw [List.mem_filter, List.mem_tails, decide_eq_true_iff, and_comm]

theorem isFile_iff : files.isFile q = true ↔ ∃ content, files q = some (.file content) := by
  unfold isFile
  rcases files q with _ | _ | content <;> simp

theorem ensureDir_eq_ok_iff : host.ensureDir files dir = .ok files' ↔
    (∀ q ∈ way dir, ∀ content, files q ≠ some (.file content)) ∧
      files' = fun q => if q ∈ way dir then some .dir else files q := by
  have free : (¬ (way dir).any files.isFile = true) ↔
      ∀ q ∈ way dir, ∀ content, files q ≠ some (.file content) := by
    simp only [List.any_eq_true, isFile_iff, not_exists, not_and]
  rw [← free]
  unfold host
  dsimp only
  split
  · next blocked => exact iff_of_false nofun fun h => h.1 blocked
  · next open' => exact ⟨fun h => ⟨open', (Except.ok.inj h).symm⟩, fun h => congrArg _ h.2.symm⟩

theorem read_eq_ok_iff {text : String} :
    host.read files p = .ok text ↔ files (place p) = some (.file (.text text)) := by
  unfold host
  dsimp only
  rcases files (place p) with _ | _ | _ | _ <;> simp

theorem write_eq_ok_iff {text : String} : host.write files p text = .ok files' ↔
    files (place p) ≠ some .dir ∧
      files' = Function.update files (place p) (some (.file (.text text))) := by
  unfold host
  dsimp only
  split
  · next taken => exact iff_of_false nofun fun h => h.1 taken
  · next free => exact ⟨fun h => ⟨free, (Except.ok.inj h).symm⟩, fun h => congrArg _ h.2.symm⟩

theorem place_extends {x : List String} (h : p.Extends root x) :
    place p = x.reverse ++ place root := by
  unfold place
  rw [h.parts, List.reverse_append]

/-- The directories of a file are all places on the way to it. -/
theorem above_iff {n : String} (h : p.Extends root [n]) :
    view.Above p q ↔ q ≠ [] ∧ q <:+ place root := by
  have h' : p.Extends root ([] ++ [n]) := h
  constructor
  · rintro ⟨dir, named, way⟩
    rw [mem_way_iff, place_extends (h'.directory? named)] at way
    exact way
  · rintro ⟨some, sub⟩
    obtain ⟨dir, parent, ends⟩ := h'.parent?
    have same : place dir = place root := place_extends ends
    refine ⟨dir, ?_, mem_way_iff.mpr ⟨some, same ▸ sub⟩⟩
    unfold Path.directory?
    rw [parent, Option.filter_eq_some_iff]
    refine ⟨rfl, decide_eq_true fun empty => some ?_⟩
    -- an empty path has no places on the way to it
    rw [← same, show dir = ⟨""⟩ from congrArg Path.mk empty] at sub
    exact List.suffix_nil.mp sub

theorem keeps : host.Keeps view where
  place_extends h _ := place_extends h
  sound_ensureDir _ _ _ := trivial
  housed {files files' p dir} _ named made := by
    obtain ⟨free, rfl⟩ := ensureDir_eq_ok_iff.mp made
    have same {q : FilePlace} : view.Above p q ↔ q ∈ way dir := by
      refine ⟨?_, fun way => ⟨dir, named, way⟩⟩
      rintro ⟨dir', named', way⟩
      cases named.symm.trans named'
      exact way
    exact ⟨fun q content above => free q (same.mp above) content,
      fun q above => if_pos (same.mp above), fun q none => if_neg fun way => none (same.mpr way)⟩
  exists_ensureDir named _ _ _ free :=
    ⟨_, ensureDir_eq_ok_iff.mpr ⟨fun q way content => free q content ⟨_, named, way⟩, rfl⟩⟩
  sound_write _ _ := trivial
  filed _ written := by
    obtain ⟨free, rfl⟩ := write_eq_ok_iff.mp written
    exact ⟨free, Function.update_self .., fun q other => Function.update_of_ne other ..⟩
  exists_write _ _ _ _ _ free := ⟨_, write_eq_ok_iff.mpr ⟨free, rfl⟩⟩

/-- **Plain files are refused only for clashes.** -/
theorem refusesOnlyClashes : host.RefusesOnlyClashes view where
  __ := keeps
  named := fun _ _ ⟨dir, named, _⟩ => ⟨dir, named⟩
  above_sibling hp _ hq _ place := (above_iff hp).trans (above_iff hq).symm
  above_child {p q root n k} hp _ hq _ place := by
    have here : PlainFiles.place q = k :: PlainFiles.place root := place_extends hq
    rw [above_iff hp, above_iff hq, show view.place q = _ from here, here, List.suffix_cons_iff,
      and_or_left, or_comm]
    refine or_congr Iff.rfl (and_iff_right_of_imp ?_)
    rintro rfl
    exact List.cons_ne_nil _ _
  ensures _ named free :=
    ⟨_, ensureDir_eq_ok_iff.mpr ⟨fun q way content => free q content ⟨_, named, way⟩, rfl⟩⟩
  writes _ _ free text := ⟨_, write_eq_ok_iff.mpr ⟨free, rfl⟩⟩

/-! ### Some plain files -/

/-- Some files outside all directories. -/
def holding (files : List (String × String)) : PlainFiles
  | [name] => (files.lookup name).map fun text => .file (.text text)
  | _ => none

theorem read_holding {files : List (String × String)} {name text : String}
    (here : place ⟨name⟩ = [name]) (found : files.lookup name = some text) :
    host.read (holding files) ⟨name⟩ = .ok text := by
  unfold host
  dsimp only
  rw [here, holding, found]
  rfl

end PlainFiles

end Subgraph

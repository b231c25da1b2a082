import Mathlib.Data.List.Nodup
import Subgraph.Proofs.CheckedNames

/-!
# OutputNames — the files of a manifest, by name

The directories of data sources, the directory of the templates and the file with their classes lie
in one directory, and their names may hold dots.  So a file may have the name that the directory of
another file has.

* `Manifest.outputNames`: where all files of a manifest go, each as the names that lead to it.
* `IsLevel`: no file lies where another needs a directory.
* `Manifest.IsClashFree`: what the names in a manifest must not be for this.
* `isClashFree_iff`: it is just what keeps the files of a manifest level.
* `nodup_outputNames`, `IsClashFree.pairwise`: where entries have different names, no file lies
  where another does, or above it.
-/

namespace Subgraph

/-! ### Names that lead to files -/

/-- Of the names that lead to some files, none are the beginning of others. -/
def IsLevel (names : List (List String)) : Prop := ∀ x ∈ names, ∀ y ∈ names, x <+: y → x = y

/-- The names that lead from the directory of all bindings to those of a reference. -/
def AbiReference.outputNames (r : AbiReference) (extension : String) : List String :=
  r.owner.segments ++ [r.fileName extension]

namespace Manifest

variable {m : Manifest} {extension : String} {x y : List String}

/-- Where all files of a manifest go: the bindings, and the classes of the templates if there are
any. -/
def outputNames (m : Manifest) (extension : String) : List (List String) :=
  (m.dataSourceAbis ++ m.templateAbis).map (·.outputNames extension) ++
    if m.templates = [] then [] else [["templates." ++ extension]]

/-- No data source takes the name of the file with the classes of the templates, and no template
that of the bindings of a data source `templates`; entries without interfaces may, for they have no
directory. -/
structure IsClashFree (m : Manifest) (extension : String) : Prop where
  templatesFile : m.templates ≠ [] → ∀ e ∈ m.dataSources, e.name = "templates." ++ extension →
    e.mapping.abis = []
  templatesDir : ∀ e ∈ m.dataSources, e.name = "templates" → ∀ abi ∈ e.mapping.abis,
    ∀ template ∈ m.templates, template.name = abi.name ++ "." ++ extension →
      template.mapping.abis = []

theorem dataSources_outputNames (m : Manifest) (extension : String) :
    m.dataSourceAbis.map (·.outputNames extension) = m.dataSources.flatMap fun e =>
      e.mapping.abis.map fun abi => [e.name, abi.name ++ "." ++ extension] := by
  unfold dataSourceAbis Entry.abiReferences
  rw [List.map_flatMap]
  simp only [List.map_map]
  rfl

theorem templates_outputNames (m : Manifest) (extension : String) :
    m.templateAbis.map (·.outputNames extension) = m.templates.flatMap fun e =>
      e.mapping.abis.map fun abi => ["templates", e.name, abi.name ++ "." ++ extension] := by
  unfold templateAbis Entry.abiReferences
  rw [List.map_flatMap]
  simp only [List.map_map]
  rfl

/-- How the names that lead to a file of a manifest look. -/
inductive IsOutput (m : Manifest) (extension : String) : List String → Prop
  | dataSource {e : Entry} {abi : AbiEntry} (he : e ∈ m.dataSources) (ha : abi ∈ e.mapping.abis) :
      IsOutput m extension [e.name, abi.name ++ "." ++ extension]
  | template {e : Entry} {abi : AbiEntry} (he : e ∈ m.templates) (ha : abi ∈ e.mapping.abis) :
      IsOutput m extension ["templates", e.name, abi.name ++ "." ++ extension]
  | classes (any : m.templates ≠ []) : IsOutput m extension ["templates." ++ extension]

theorem mem_outputNames_iff : x ∈ m.outputNames extension ↔ m.IsOutput extension x := by
  unfold outputNames
  rw [List.map_append, dataSources_outputNames, templates_outputNames]
  constructor
  · intro h
    rcases List.mem_append.mp h with h | h
    · rcases List.mem_append.mp h with h | h
      · obtain ⟨e, he, h⟩ := List.mem_flatMap.mp h
        obtain ⟨abi, ha, rfl⟩ := List.mem_map.mp h
        exact .dataSource he ha
      · obtain ⟨e, he, h⟩ := List.mem_flatMap.mp h
        obtain ⟨abi, ha, rfl⟩ := List.mem_map.mp h
        exact .template he ha
    · split at h
      · cases h
      · next any =>
          rw [List.mem_singleton.mp h]
          exact .classes any
  · intro h
    cases h with
    | dataSource he ha =>
        exact List.mem_append_left _ (List.mem_append_left _
          (List.mem_flatMap.mpr ⟨_, he, List.mem_map_of_mem ha⟩))
    | template he ha =>
        exact List.mem_append_left _ (List.mem_append_right _
          (List.mem_flatMap.mpr ⟨_, he, List.mem_map_of_mem ha⟩))
    | classes any =>
        refine List.mem_append_right _ ?_
        rw [if_neg any]
        exact List.mem_singleton.mpr rfl

/-! ### Files where others need a directory -/

theorem templates_ne (extension : String) : "templates." ++ extension ≠ "templates" := by
  intro same
  have chars := congrArg List.length (congrArg String.toList same)
  rw [String.toList_append, List.length_append, show "templates.".toList.length = 10 from rfl,
    show "templates".toList.length = 9 from rfl] at chars
  omega

/-- **A manifest is free of clashes** just when no file lies where another needs a directory. -/
theorem isClashFree_iff : m.IsClashFree extension ↔ IsLevel (m.outputNames extension) := by
  unfold IsLevel
  simp only [mem_outputNames_iff]
  constructor
  · intro free x hx y hy sub
    have long := sub.length_le
    cases hx with
    | dataSource he ha =>
        cases hy with
        | dataSource => exact sub.eq_of_length rfl
        | template he' ha' =>
            -- the data source is called `templates`, and the template as the file
            obtain ⟨dir, rest⟩ := List.cons_prefix_cons.mp sub
            obtain ⟨file, -⟩ := List.cons_prefix_cons.mp rest
            rw [free.templatesDir _ he dir _ ha _ he' file.symm] at ha'
            cases ha'
        | classes => exact absurd long (by simp)
    | template =>
        cases hy with
        | dataSource => exact absurd long (by simp)
        | template => exact sub.eq_of_length rfl
        | classes => exact absurd long (by simp)
    | classes any =>
        cases hy with
        | dataSource he ha =>
            rw [free.templatesFile any _ he (List.cons_prefix_cons.mp sub).1.symm] at ha
            cases ha
        | template => exact absurd (List.cons_prefix_cons.mp sub).1 (templates_ne extension)
        | classes => rfl
  · intro free
    refine ⟨fun any e he name => ?_, fun e he name abi ha template ht file => ?_⟩
    · refine List.eq_nil_iff_forall_not_mem.mpr fun abi ha => ?_
      have same := free _ (.classes any) _ (.dataSource he ha)
        (List.cons_prefix_cons.mpr ⟨name.symm, List.nil_prefix⟩)
      exact absurd (congrArg List.length same) (by simp)
    · refine List.eq_nil_iff_forall_not_mem.mpr fun abi' ha' => ?_
      have same := free _ (.dataSource he ha) _ (.template ht ha')
        (List.cons_prefix_cons.mpr ⟨name, List.cons_prefix_cons.mpr ⟨file.symm, List.nil_prefix⟩⟩)
      exact absurd (congrArg List.length same) (by simp)

/-! ### Different files -/

/-- The files of the entries of one kind are different where the entries have different names. -/
theorem nodup_flatMap_outputs (extension : String) {entries : List Entry}
    (plain : ∀ e ∈ entries, e.IsPlain) (distinct : (entries.map Entry.name).Nodup)
    {f : String → String → List String}
    (inj : ∀ {a b a' b'}, f a b = f a' b' → a = a' ∧ b = b') :
    (entries.flatMap fun e =>
      e.mapping.abis.map fun abi => f e.name (abi.name ++ "." ++ extension)).Nodup := by
  rw [List.nodup_flatMap]
  constructor
  · intro e he
    refine List.pairwise_map.mpr ((List.pairwise_map.mp (plain e he).distinct).imp ?_)
    intro abi abi' ne same
    have chars := congrArg String.toList (inj same).2
    simp only [String.toList_append, List.append_cancel_right_eq] at chars
    exact ne (String.toList_inj.mp chars)
  · refine (List.pairwise_map.mp distinct).imp fun ne x hx hy => ?_
    obtain ⟨abi, -, rfl⟩ := List.mem_map.mp hx
    obtain ⟨abi', -, same⟩ := List.mem_map.mp hy
    exact ne (inj same).1.symm

/-- The files of the entries of one kind are equally deep. -/
theorem length_of_mem_flatMap {entries : List Entry} {f : String → String → List String} {n : Nat}
    (deep : ∀ a b, (f a b).length = n) (h : x ∈ entries.flatMap fun e =>
      e.mapping.abis.map fun abi => f e.name (abi.name ++ "." ++ extension)) : x.length = n := by
  obtain ⟨e, -, h⟩ := List.mem_flatMap.mp h
  obtain ⟨abi, -, rfl⟩ := List.mem_map.mp h
  exact deep _ _

/-- **Where the entries of each kind have different names**, so have their files. -/
theorem nodup_outputNames (plain : ∀ e ∈ m.dataSources ++ m.templates, e.IsPlain)
    (dataSources : (m.dataSources.map Entry.name).Nodup)
    (templates : (m.templates.map Entry.name).Nodup) : (m.outputNames extension).Nodup := by
  obtain ⟨plain₁, plain₂⟩ := List.forall_mem_append.mp plain
  have first := nodup_flatMap_outputs extension plain₁ dataSources
    (f := fun a b => [a, b]) (by simp)
  have second := nodup_flatMap_outputs extension plain₂ templates
    (f := fun a b => ["templates", a, b]) (by simp)
  unfold outputNames
  rw [List.map_append, dataSources_outputNames, templates_outputNames]
  -- files of different kinds are not equally deep
  refine List.nodup_append'.mpr ⟨List.nodup_append'.mpr ⟨first, second, fun x hx hy => ?_⟩, ?_, ?_⟩
  · have two : x.length = 2 := length_of_mem_flatMap (f := fun a b => [a, b]) (fun _ _ => rfl) hx
    have three : x.length = 3 :=
      length_of_mem_flatMap (f := fun a b => ["templates", a, b]) (fun _ _ => rfl) hy
    omega
  · split
    · exact List.nodup_nil
    · exact List.nodup_singleton _
  · intro x hx hy
    have one : x.length = 1 := by
      split at hy
      · cases hy
      · rw [List.mem_singleton.mp hy]
        rfl
    rcases List.mem_append.mp hx with hx | hx
    · have two : x.length = 2 := length_of_mem_flatMap (f := fun a b => [a, b]) (fun _ _ => rfl) hx
      omega
    · have three : x.length = 3 :=
        length_of_mem_flatMap (f := fun a b => ["templates", a, b]) (fun _ _ => rfl) hx
      omega

/-- **No file lies where another does, or above it.** -/
theorem IsClashFree.pairwise (free : m.IsClashFree extension)
    (nodup : (m.outputNames extension).Nodup) :
    (m.outputNames extension).Pairwise fun x y => ¬ x <+: y ∧ ¬ y <+: x := by
  have level := isClashFree_iff.mp free
  refine nodup.imp_of_mem fun {x y} hx hy ne => ⟨fun sub => ?_, fun sub => ?_⟩
  · exact ne (level x hx y hy sub)
  · exact ne (level y hy x hx sub).symm

end Manifest

end Subgraph

import Subgraph.Proofs.OutputPaths

/-!
# BindingPaths — whose bindings a path is for

The path of bindings is made of the name of their owner, that of their interface, and an extension.
All of these are free text, and so is the directory that the path begins with.  A data source may be
called as a template is, or `templates`, as the directory of all templates is.

* `HasPlainNames`: the names that the path is made of, and that of the file, are plain.
* `exists_error_of_refused`: where one is not, the first of those is what the error names.
* `eq_of_parts_eq`: a path tells the owner of its bindings and the name of the interface.
* `outputPath_tells_apart`: bindings have a path just when the names are plain, and no other
  bindings have the same path.
-/

namespace Subgraph

/-- The names that lead to the directory of an owner tell a data source from a template. -/
theorem Owner.segments_inj {owner owner' : Owner} :
    owner.segments = owner'.segments ↔ owner = owner' := by
  cases owner <;> cases owner' <;> simp [Owner.segments]

namespace AbiReference

variable {r r' : AbiReference} {root path path' : Path} {extension : String}

/-- The names of the owner and of the interface are plain, and so is that of the file. -/
structure HasPlainNames (r : AbiReference) (extension : String) : Prop where
  owner : IsSegment r.owner.name
  abi : IsSegment r.abi
  file : IsSegment (r.abi ++ "." ++ extension)

theorem hasPlainNames_iff :
    r.HasPlainNames extension ↔ ∀ name ∈ r.names extension, IsSegment name := by
  constructor
  · intro plain
    exact List.forall_mem_cons.mpr ⟨plain.owner, List.forall_mem_cons.mpr
      ⟨plain.abi, List.forall_mem_singleton.mpr plain.file⟩⟩
  · intro plain
    exact ⟨plain _ (.head _), plain _ (.tail _ (.head _)), plain _ (.tail _ (.tail _ (.head _)))⟩

/-- Bindings without a path have a name that is refused, and the error says why. -/
theorem exists_error_of_refused (refused : ¬ r.HasPlainNames extension) (root : Path) :
    ∃ name ∈ r.names extension, ∃ problem, segmentProblem? name = some problem ∧
      r.outputPath root extension = .error (.config (.badName r.owner r.abi name problem)) := by
  rw [hasPlainNames_iff, ← badName?_eq_none_iff] at refused
  obtain ⟨⟨name, problem⟩, bad⟩ := Option.ne_none_iff_exists'.mp refused
  obtain ⟨name', mem, found⟩ := List.exists_of_findSome?_eq_some bad
  obtain ⟨problem', refusal, same⟩ := Option.map_eq_some_iff.mp found
  cases same
  exact ⟨name, mem, problem, refusal, by rw [outputPath, bad]⟩

/-- **A path tells whose bindings it is for**, also when it is only read component by component. -/
theorem eq_of_parts_eq (h : r.outputPath root extension = .ok path)
    (h' : r'.outputPath root extension = .ok path') (same : path.parts = path'.parts) :
    r.owner = r'.owner ∧ r.abi = r'.abi := by
  have names : r.owner.segments ++ [r.fileName extension] =
      r'.owner.segments ++ [r'.fileName extension] := by
    rw [(extends_outputPath h).2.parts, (extends_outputPath h').2.parts] at same
    exact List.append_cancel_left same
  obtain ⟨owner, file⟩ := List.append_inj' names rfl
  exact ⟨Owner.segments_inj.mp owner, abi_of_fileName (List.singleton_inj.mp file)⟩

/-- **Bindings have a path of their own just when their names are plain.**

If a name is not, the error is one of configuration.  Bindings of different owners have different
paths in one directory, and so have those of different interfaces; they differ in their components,
too, not only in how these are written. -/
theorem outputPath_tells_apart (root : Path) (extension : String) :
    (∀ r : AbiReference,
      ((∃ path, r.outputPath root extension = .ok path) ↔ r.HasPlainNames extension) ∧
      (¬ r.HasPlainNames extension →
        ∃ e, r.outputPath root extension = .error e ∧ e.kind = .config)) ∧
    ∀ (r r' : AbiReference) (path path' : Path), r.outputPath root extension = .ok path →
      r'.outputPath root extension = .ok path' → (r.owner ≠ r'.owner ∨ r.abi ≠ r'.abi) →
        path ≠ path' ∧ path.parts ≠ path'.parts := by
  refine ⟨fun r => ⟨⟨?_, fun plain => ?_⟩, fun refused => ?_⟩,
    fun r r' path path' h h' differ => ?_⟩
  · rintro ⟨path, h⟩
    obtain ⟨owner, abi, file, -⟩ := isSegment_of_outputPath h
    exact ⟨owner, abi, file⟩
  · exact ⟨_, outputPath_of_isSegment (hasPlainNames_iff.mp plain) root⟩
  · obtain ⟨name, -, problem, -, h⟩ := exists_error_of_refused refused root
    exact ⟨_, h, rfl⟩
  · have parts : path.parts ≠ path'.parts := fun same =>
      have equal := eq_of_parts_eq h h' same
      differ.elim (· equal.1) (· equal.2)
    exact ⟨fun same => parts (congrArg Path.parts same), parts⟩

/-- The bindings of an interface `Pair`. -/
def pair (owner : Owner) : AbiReference := ⟨owner, "Pair", ⟨"Pair.json"⟩⟩

/-- A data source that is called as the directory of the templates, a template, and one with a name
that would lead elsewhere. -/
theorem outputPath_tells_apart_templates :
    ((pair (.dataSource "templates")).outputPath ⟨"out/"⟩ "ts" = .ok ⟨"out/templates/Pair.ts"⟩ ∧
      (pair (.template "Pair")).outputPath ⟨"out/"⟩ "ts" = .ok ⟨"out/templates/Pair/Pair.ts"⟩ ∧
      Owner.dataSource "templates" ≠ .template "Pair" ∧
      Path.mk "out/templates/Pair.ts" ≠ ⟨"out/templates/Pair/Pair.ts"⟩ ∧
      Path.parts ⟨"out/templates/Pair.ts"⟩ ≠ Path.parts ⟨"out/templates/Pair/Pair.ts"⟩) ∧
    ¬ (pair (.template "..")).HasPlainNames "ts" ∧
      ∃ e, (pair (.template "..")).outputPath ⟨"out/"⟩ "ts" = .error e ∧ e.kind = .config := by
  have told := outputPath_tells_apart ⟨"out/"⟩ "ts"
  have dataSource : (pair (.dataSource "templates")).outputPath ⟨"out/"⟩ "ts" =
      .ok ⟨"out/templates/Pair.ts"⟩ := by decide
  have template : (pair (.template "Pair")).outputPath ⟨"out/"⟩ "ts" =
      .ok ⟨"out/templates/Pair/Pair.ts"⟩ := by decide
  have refused : ¬ (pair (.template "..")).HasPlainNames "ts" := fun plain =>
    plain.owner.2.2.2.2 rfl
  refine ⟨⟨dataSource, template, nofun, ?_⟩, refused, (told.1 _).2 refused⟩
  exact told.2 _ _ _ _ dataSource template (.inl nofun)

end AbiReference

end Subgraph

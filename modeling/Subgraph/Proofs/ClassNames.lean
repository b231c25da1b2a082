import Mathlib.Data.List.Nodup
import Subgraph.Proofs.Builds
import Subgraph.Proofs.PascalCase

/-!
# ClassNames — the names of the classes in the bindings of a contract

The bindings of a contract declare classes for its events, for the contract and for its calls.  The
names of events differ from each other, and so do those of calls.  But names are handed out group by
group: nothing compares a name with those of another group, or with what the bindings import.

* `IsStem`: a name without an underscore, but for one at its start.
* `classNames_of_declarations`: each class name is a stem with an ending.  What ends the name of one
  class never makes it that of another (`append_inj`).
* `nodup_classNames_iff`: the class names differ from each other and from what is imported just when
  the groups have no name in common.
-/

namespace Subgraph

open Layout Generated Text

namespace Ethereum

/-! ### Stems and endings -/

/-- A name that has no underscore, but for one at its start. -/
def IsStem (name : String) : Prop := ∃ c cs, name.toList = c :: cs ∧ '_' ∉ cs

theorem IsStem.append {a b : String} (ha : IsStem a) (hb : '_' ∉ b.toList) : IsStem (a ++ b) := by
  obtain ⟨c, cs, hc, free⟩ := ha
  refine ⟨c, cs ++ b.toList, ?_, fun h => (List.mem_append.mp h).elim free hb⟩
  rw [String.toList_append, hc, List.cons_append]

/-- **The name that a class asks for is a stem**, whatever it is made of. -/
theorem isStem_identifier (text : String) {fallback : String} (h : IsStem fallback) :
    IsStem (identifier (pascalCase text) fallback) := by
  have free := underscore_notMem_pascalCase text
  unfold identifier
  rw [map_wordChar_pascalCase, String.ofList_toList]
  dsimp only
  split
  · exact h
  · next c cs hc =>
      split
      · exact ⟨'_', (pascalCase text).toList, String.toList_append, free⟩
      · exact ⟨c, cs, hc, fun h => free (hc ▸ List.mem_cons_of_mem _ h)⟩

theorem isStem_of_mem_distinctNames {names : List String} (h : ∀ name ∈ names, IsStem name) :
    ∀ name ∈ distinctNames names, IsStem name := by
  refine forall_mem_distinctNames (fun k hn => hn.append fun hk => ?_) h
  rw [Nat.repr_eq_ofList_toDigits, String.toList_ofList] at hk
  exact absurd (Nat.isDigit_of_mem_toDigits (by decide) (by decide) hk) (by decide)

/-- What may stand behind a stem in the name of a class. -/
def endings : List String := ["", "__Params", "__Inputs", "__Outputs"]

/-- The characters of a name up to its first underscore; one at the start does not count. -/
def stemChars : List Char → List Char
  | [] => []
  | c :: cs => c :: cs.takeWhile (· != '_')

/-- A name shows its stem, whatever its ending is. -/
theorem stemChars_append {stem ending : String} (hs : IsStem stem) (he : ending ∈ endings) :
    stemChars (stem ++ ending).toList = stem.toList := by
  have none : ∀ ending ∈ endings, ending.toList.takeWhile (· != '_') = [] := by decide
  obtain ⟨c, cs, hc, free⟩ := hs
  rw [String.toList_append, hc, List.cons_append, stemChars, List.takeWhile_append_of_pos,
    none ending he, List.append_nil]
  exact fun a ha => bne_iff_ne.mpr fun h => free (h ▸ ha)

/-- **Two names with one text have one stem and one ending.** -/
theorem append_inj {a b x y : String} (ha : IsStem a) (hb : IsStem b) (hx : x ∈ endings)
    (hy : y ∈ endings) (h : a ++ x = b ++ y) : a = b ∧ x = y := by
  have stems : a = b := by
    rw [← String.toList_inj, ← stemChars_append ha hx, h, stemChars_append hb hy]
  subst stems
  exact ⟨rfl, (String.append_right_inj a).mp h⟩

/-! ### Classes with classes for their parts -/

/-- The names of a class and of the classes for its parts: a stem, with some endings. -/
structure ClassFamily where
  stem : String
  endings : List String

namespace ClassFamily

def names (f : ClassFamily) : List String := f.endings.map (f.stem ++ ·)

/-- An event and its parameters. -/
def ofEvent (name : String) : ClassFamily := ⟨name, ["", "__Params"]⟩

def ofContract (name : String) : ClassFamily := ⟨name, [""]⟩

/-- A call with its inputs and its outputs. -/
def ofCall (name : String) : ClassFamily := ⟨name, ["", "__Inputs", "__Outputs"]⟩

@[simp] theorem stem_ofEvent (name : String) : (ofEvent name).stem = name := rfl

@[simp] theorem stem_ofContract (name : String) : (ofContract name).stem = name := rfl

@[simp] theorem stem_ofCall (name : String) : (ofCall name).stem = name := rfl

/-- The class itself is among the names, and those of its parts can be told apart. -/
structure IsRegular (f : ClassFamily) : Prop where
  stem : IsStem f.stem
  itself : "" ∈ f.endings
  distinct : f.endings.Nodup
  subset : f.endings ⊆ Ethereum.endings

theorem isRegular_ofEvent {name : String} (h : IsStem name) : (ofEvent name).IsRegular := by
  have checked : ["", "__Params"].Nodup ∧ ["", "__Params"] ⊆ Ethereum.endings := by decide
  exact ⟨h, List.mem_cons_self, checked.1, checked.2⟩

theorem isRegular_ofContract {name : String} (h : IsStem name) : (ofContract name).IsRegular := by
  have checked : [""].Nodup ∧ [""] ⊆ Ethereum.endings := by decide
  exact ⟨h, List.mem_cons_self, checked.1, checked.2⟩

theorem isRegular_ofCall {name : String} (h : IsStem name) : (ofCall name).IsRegular := by
  have checked : ["", "__Inputs", "__Outputs"].Nodup ∧
      ["", "__Inputs", "__Outputs"] ⊆ Ethereum.endings := by decide
  exact ⟨h, List.mem_cons_self, checked.1, checked.2⟩

variable {f f' : ClassFamily} {fs : List ClassFamily}

theorem IsRegular.stem_mem (h : f.IsRegular) : f.stem ∈ f.names :=
  List.mem_map.mpr ⟨"", h.itself, String.append_empty⟩

/-- Names of different families differ. -/
theorem disjoint_iff (h : f.IsRegular) (h' : f'.IsRegular) :
    f.names.Disjoint f'.names ↔ f.stem ≠ f'.stem := by
  constructor
  · intro disjoint same
    exact disjoint h.stem_mem (same ▸ h'.stem_mem)
  · intro ne name hn hn'
    obtain ⟨x, hx, rfl⟩ := List.mem_map.mp hn
    obtain ⟨y, hy, same⟩ := List.mem_map.mp hn'
    exact ne (append_inj h'.stem h.stem (h'.subset hy) (h.subset hx) same).1.symm

theorem IsRegular.nodup (h : f.IsRegular) : f.names.Nodup :=
  h.distinct.map_on fun _ hx _ hy same =>
    (append_inj h.stem h.stem (h.subset hx) (h.subset hy) same).2

/-- **Class names differ from each other if their stems do.** -/
theorem nodup_names_iff (h : ∀ f ∈ fs, f.IsRegular) :
    (fs.flatMap names).Nodup ↔ (fs.map stem).Nodup := by
  rw [List.nodup_flatMap, List.Nodup, List.pairwise_map]
  constructor
  · rintro ⟨-, disjoint⟩
    exact disjoint.imp_of_mem fun hf hf' => (disjoint_iff (h _ hf) (h _ hf')).mp
  · intro ne
    exact ⟨fun f hf => (h f hf).nodup,
      ne.imp_of_mem fun hf hf' => (disjoint_iff (h _ hf) (h _ hf')).mpr⟩

end ClassFamily

/-! ### The classes of an interface -/

variable {abiName : String} {abi : Abi} {groups : List (List ClassDecl)}

/-- The names of the classes in some declarations, in order. -/
def classNames (groups : List (List ClassDecl)) : List String := groups.flatten.map ClassDecl.name

/-- The names handed out to the events. -/
def eventNames (abi : Abi) : List String := distinctNames (abi.events.map eventName)

/-- The names handed out to the functions that change the contract. -/
def functionNames (abi : Abi) : List String :=
  distinctNames ((abi.functions.filter fun f => !f.isReadOnly).map callName)

/-- The name of calls of the constructor, if there is one. -/
def creationNames (abi : Abi) : List String :=
  if abi.constructor?.isSome then ["ConstructorCall"] else []

/-- The names of calls. -/
def callNames (abi : Abi) : List String :=
  creationNames abi ++ (functionNames abi).map (· ++ "Call")

/-- The names of all classes of an interface, each with those of its parts. -/
def families (abiName : String) (abi : Abi) : List ClassFamily :=
  (eventNames abi).map .ofEvent ++ .ofContract (contractName abiName) ::
    (callNames abi).map .ofCall

theorem classNames_append (xs ys : List (List ClassDecl)) :
    classNames (xs ++ ys) = classNames xs ++ classNames ys := by
  unfold classNames
  rw [List.flatten_append, List.map_append]

theorem classNames_cons (classes : List ClassDecl) (groups : List (List ClassDecl)) :
    classNames (classes :: groups) = classes.map ClassDecl.name ++ classNames groups := by
  unfold classNames
  rw [List.flatten_cons, List.map_append]

theorem Gives.of_ok {α : Type} {r : Except AbiError α} {P : α → Prop} (h : Gives r P) {v : α}
    (ok : r = .ok v) : P v := by
  subst ok
  exact h

theorem gives_eventNames (named : List (String × Event)) :
    Gives (eventDeclarations named) fun groups => classNames groups =
      (named.map fun e => ClassFamily.ofEvent e.1).flatMap ClassFamily.names := by
  induction named with
  | nil => rfl
  | cons e named ih =>
      refine (gives_slots (isWord_text rfl) e.2.inputs).bind fun params _ => ?_
      refine ih.bind fun groups hg => ?_
      show classNames (eventClasses e.1 params :: groups) = _
      rw [classNames_cons, hg]
      simp [ClassFamily.ofEvent, ClassFamily.names, eventClasses, accessorClass]

theorem gives_callClassNames (name : String) (inputs outputs : List Param) :
    Gives (callClasses name inputs outputs) fun classes =>
      classes.map ClassDecl.name = (ClassFamily.ofCall name).names := by
  have word : IsWord "value" := isWord_text rfl
  refine (gives_slots word inputs).bind fun ins _ => ?_
  refine (gives_slots word outputs).bind fun outs _ => ?_
  show List.map ClassDecl.name [_, _, _] = _
  simp [ClassFamily.ofCall, ClassFamily.names, accessorClass]

theorem gives_callNames (named : List (String × Function)) :
    Gives (callDeclarations named) fun groups => classNames groups =
      (named.map fun f => ClassFamily.ofCall (f.1 ++ "Call")).flatMap ClassFamily.names := by
  induction named with
  | nil => rfl
  | cons f named ih =>
      refine (gives_callClassNames (f.1 ++ "Call") f.2.inputs f.2.outputs).bind fun classes hc => ?_
      refine ih.bind fun groups hg => ?_
      show classNames (classes :: groups) = _
      rw [classNames_cons, hg, hc, List.map_cons, List.flatMap_cons]

theorem gives_creationNames (abi : Abi) :
    Gives (creationDeclarations abi) fun groups => classNames groups =
      ((creationNames abi).map ClassFamily.ofCall).flatMap ClassFamily.names := by
  unfold creationDeclarations creationNames
  cases abi.constructor? with
  | none => rfl
  | some inputs =>
      refine (gives_callClassNames "ConstructorCall" inputs []).bind fun classes hc => ?_
      show classNames [classes] = _
      rw [classNames_cons, hc]
      rfl

theorem gives_contractName (abiName : String) (abi : Abi) :
    Gives (contractClass abiName abi) fun c => c.name = contractName abiName := by
  have words (f : Function) : IsWord (methodName f) := isWord_identifier f.name (isWord_text rfl)
  have names : ∀ f ∈ callable abi, IsTidy f.1 := isTidy_of_mem_zip words _
  unfold contractClass
  generalize contractName abiName = name
  exact (gives_contractMethods names).bind fun methods _ => Eq.refl name

/-- **The names of all classes that are declared**, in order. -/
theorem classNames_of_declarations (made : declarations abiName abi = .ok groups) :
    classNames groups = (families abiName abi).flatMap ClassFamily.names := by
  have events : (namedEvents abi).map Prod.fst = eventNames abi :=
    List.map_fst_zip (by simp)
  have functions : (changing abi).map Prod.fst = functionNames abi :=
    List.map_fst_zip (by simp)
  refine Gives.of_ok (P := fun groups => classNames groups = _) ?_ made
  refine (gives_eventNames (namedEvents abi)).bind fun es he => ?_
  refine (gives_contractName abiName abi).bind fun contract hc => ?_
  refine (gives_creationNames abi).bind fun creation hk => ?_
  refine (gives_callNames (changing abi)).bind fun cs hcs => ?_
  show classNames (es ++ [[contract]] ++ creation ++ cs) = _
  rw [classNames_append, classNames_append, classNames_append, he, hk, hcs]
  unfold families callNames
  rw [← events, ← functions]
  simp [classNames, hc, ClassFamily.ofContract, ClassFamily.names, Function.comp_def]

theorem isStem_text {name : String} (h : name.toList ≠ []) (free : '_' ∉ name.toList.tail) :
    IsStem name := by
  obtain ⟨c, cs, hc⟩ := List.exists_cons_of_ne_nil h
  rw [hc] at free
  exact ⟨c, cs, hc, free⟩

theorem isStem_eventNames : ∀ name ∈ eventNames abi, IsStem name := by
  refine isStem_of_mem_distinctNames fun name hn => ?_
  obtain ⟨e, -, rfl⟩ := List.mem_map.mp hn
  exact isStem_identifier _ (isStem_text (by decide) (by decide))

theorem isStem_contractName (abiName : String) : IsStem (contractName abiName) :=
  isStem_identifier _ (isStem_text (by decide) (by decide))

theorem isStem_callNames : ∀ name ∈ callNames abi, IsStem name := by
  intro name hn
  rcases List.mem_append.mp hn with hn | hn
  · unfold creationNames at hn
    split at hn
    · rw [List.mem_singleton.mp hn]
      exact isStem_text (by decide) (by decide)
    · cases hn
  · obtain ⟨f, hf, rfl⟩ := List.mem_map.mp hn
    refine IsStem.append ?_ (by decide)
    refine isStem_of_mem_distinctNames (fun name hn => ?_) f hf
    obtain ⟨f, -, rfl⟩ := List.mem_map.mp hn
    exact isStem_identifier _ (isStem_text (by decide) (by decide))

theorem isRegular_families : ∀ f ∈ families abiName abi, f.IsRegular := by
  refine List.forall_mem_append.mpr ⟨?_, List.forall_mem_cons.mpr ⟨?_, ?_⟩⟩
  · exact List.forall_mem_map.mpr fun name hn =>
      ClassFamily.isRegular_ofEvent (isStem_eventNames name hn)
  · exact ClassFamily.isRegular_ofContract (isStem_contractName abiName)
  · exact List.forall_mem_map.mpr fun name hn =>
      ClassFamily.isRegular_ofCall (isStem_callNames name hn)

/-! ### Names in common -/

theorem stems_families : (families abiName abi).map ClassFamily.stem =
    eventNames abi ++ contractName abiName :: callNames abi := by
  simp [families, Function.comp_def]

theorem mem_stems_iff {name : String} : name ∈ (families abiName abi).map ClassFamily.stem ↔
    name ∈ contractName abiName :: eventNames abi ∨ name ∈ callNames abi := by
  rw [stems_families, List.mem_append, List.mem_cons, List.mem_cons]
  exact or_left_comm.trans or_assoc.symm

/-- The groups of names have none in common with each other, nor with what is imported. -/
structure NamesApart (abiName : String) (abi : Abi) : Prop where
  contract : contractName abiName ∉ eventNames abi ++ callNames abi
  calls : ∀ name ∈ callNames abi, name ∉ eventNames abi
  /-- Calls of a function do not look like those of the constructor. -/
  creation : abi.constructor?.isSome → "Constructor" ∉ functionNames abi
  imports : ∀ name ∈ contractName abiName :: eventNames abi, name ∉ bindingImports

theorem nodup_callNames_iff : (callNames abi).Nodup ↔
    (abi.constructor?.isSome → "Constructor" ∉ functionNames abi) := by
  have inj : Function.Injective (· ++ "Call") := fun _ _ => (String.append_left_inj "Call").mp
  have distinct : ((functionNames abi).map (· ++ "Call")).Nodup :=
    (nodup_distinctNames _).map inj
  unfold callNames creationNames
  by_cases some : abi.constructor?.isSome
  · rw [if_pos some, List.singleton_append, List.nodup_cons]
    have mem : "ConstructorCall" ∈ (functionNames abi).map (· ++ "Call") ↔
        "Constructor" ∈ functionNames abi :=
      List.mem_map_of_injective (a := "Constructor") inj
    rw [mem]
    exact ⟨fun h _ => h.1, fun h => ⟨h some, distinct⟩⟩
  · rw [if_neg some, List.nil_append]
    exact iff_of_true distinct fun h => absurd h some

/-- **The names handed out to all groups differ** just when no two groups have one in common. -/
theorem nodup_stems_iff :
    (eventNames abi ++ contractName abiName :: callNames abi).Nodup ↔
      contractName abiName ∉ eventNames abi ++ callNames abi ∧
        (∀ name ∈ callNames abi, name ∉ eventNames abi) ∧
          (abi.constructor?.isSome → "Constructor" ∉ functionNames abi) := by
  have events : (eventNames abi).Nodup := nodup_distinctNames _
  rw [List.nodup_middle, List.nodup_cons, List.nodup_append', nodup_callNames_iff]
  refine and_congr_right' ⟨?_, ?_⟩
  · rintro ⟨-, creation, disjoint⟩
    exact ⟨fun name hc he => disjoint he hc, creation⟩
  · rintro ⟨calls, creation⟩
    exact ⟨events, creation, fun name he hc => calls name hc he⟩

/-- The names of calls end in a word that ends no imported name. -/
theorem isSuffix_of_mem_callNames {name : String} (h : name ∈ callNames abi) :
    "Call".toList <:+ name.toList := by
  rcases List.mem_append.mp h with h | h
  · unfold creationNames at h
    split at h
    · rw [List.mem_singleton.mp h]
      decide
    · cases h
  · obtain ⟨f, -, rfl⟩ := List.mem_map.mp h
    rw [String.toList_append]
    exact List.suffix_append _ _

/-- **What is imported** can only be the name of the contract or of an event: no call and no class
for a part has a name like that. -/
theorem imports_iff : (∀ name ∈ (families abiName abi).flatMap ClassFamily.names,
      name ∉ bindingImports) ↔
    ∀ name ∈ contractName abiName :: eventNames abi, name ∉ bindingImports := by
  have plain : ∀ name ∈ bindingImports, '_' ∉ name.toList ∧ ¬ "Call".toList <:+ name.toList := by
    decide
  have part : ∀ ending ∈ endings, ending = "" ∨ '_' ∈ ending.toList := by decide
  constructor
  · intro h name hn
    obtain ⟨f, hf, rfl⟩ := List.mem_map.mp (mem_stems_iff.mpr (.inl hn))
    exact h _ (List.mem_flatMap.mpr ⟨f, hf, (isRegular_families f hf).stem_mem⟩)
  · intro h name hn imported
    obtain ⟨f, hf, hn⟩ := List.mem_flatMap.mp hn
    obtain ⟨ending, he, rfl⟩ := List.mem_map.mp hn
    rcases part ending ((isRegular_families f hf).subset he) with rfl | under
    · rw [String.append_empty] at imported
      rcases mem_stems_iff.mp (List.mem_map_of_mem hf) with stem | call
      · exact h _ stem imported
      · exact (plain _ imported).2 (isSuffix_of_mem_callNames call)
    · refine (plain _ imported).1 ?_
      rw [String.toList_append]
      exact List.mem_append_right _ under

/-- **The classes of an interface have different names, and none that is imported,** just when the
groups of names have none in common.

Within a group the names always differ, and no ending of a name is to blame. -/
theorem nodup_classNames_iff (made : declarations abiName abi = .ok groups) :
    ((classNames groups).Nodup ∧ ∀ name ∈ classNames groups, name ∉ bindingImports) ↔
      NamesApart abiName abi := by
  rw [classNames_of_declarations made, ClassFamily.nodup_names_iff isRegular_families,
    stems_families, nodup_stems_iff, imports_iff]
  constructor
  · rintro ⟨⟨contract, calls, creation⟩, imports⟩
    exact ⟨contract, calls, creation, imports⟩
  · rintro ⟨contract, calls, creation, imports⟩
    exact ⟨⟨contract, calls, creation⟩, imports⟩

instance (abiName : String) (abi : Abi) : Decidable (NamesApart abiName abi) :=
  decidable_of_iff
    (contractName abiName ∉ eventNames abi ++ callNames abi ∧
      (∀ name ∈ callNames abi, name ∉ eventNames abi) ∧
      (abi.constructor?.isSome → "Constructor" ∉ functionNames abi) ∧
      ∀ name ∈ contractName abiName :: eventNames abi, name ∉ bindingImports)
    ⟨fun ⟨h₁, h₂, h₃, h₄⟩ => ⟨h₁, h₂, h₃, h₄⟩, fun ⟨h₁, h₂, h₃, h₄⟩ => ⟨h₁, h₂, h₃, h₄⟩⟩

/-- An interface with an overloaded event, a constructor, and a function that changes the
contract. -/
def transfers : Abi where
  constructor? := some []
  functions := [⟨"transfer", [.mk "to" "address" []], [], .nonpayable⟩]
  events := [⟨"Transfer", []⟩, ⟨"Transfer", [.mk "id" "uint8" []]⟩]

theorem nodup_classNames_iff_transfers : ∃ groups, declarations "Token" transfers = .ok groups ∧
    (classNames groups).Nodup ∧ ∀ name ∈ classNames groups, name ∉ bindingImports := by
  have made : (declarations "Token" transfers).toOption.any (fun _ => true) = true := by
    decide +kernel
  have apart : NamesApart "Token" transfers := by decide +kernel
  obtain ⟨groups, made, -⟩ := exists_of_any made
  exact ⟨groups, made, (nodup_classNames_iff made).mpr apart⟩

/-- An interface with an overloaded event. -/
def overloaded : String :=
  "[\x7b\"type\":\"event\",\"name\":\"A\",\"anonymous\":false,\"inputs\":[]\x7d," ++
  "\x7b\"type\":\"event\",\"name\":\"A\",\"anonymous\":false,\"inputs\":[]\x7d]"

/-- The second of two overloads of `A` gets the name `A1`.  A contract that is called so has it,
too, and then two classes have one name. -/
theorem not_nodup_classNames_overloaded : ∃ abi groups, Abi.parse overloaded = .ok abi ∧
    declarations "A1" abi = .ok groups ∧ ¬ (classNames groups).Nodup := by
  have readable : (Abi.parse overloaded).toOption.any (fun abi =>
      (declarations "A1" abi).toOption.any fun groups =>
        decide ¬ (classNames groups).Nodup) = true := by decide +kernel
  obtain ⟨abi, parsed, made⟩ := exists_of_any readable
  obtain ⟨groups, made, clash⟩ := exists_of_any made
  exact ⟨abi, groups, parsed, made, of_decide_eq_true clash⟩

end Ethereum

end Subgraph

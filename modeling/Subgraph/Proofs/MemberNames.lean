import Mathlib.Data.List.Nodup
import Mathlib.Data.List.Pairwise
import Mathlib.Data.List.Perm.Basic
import Mathlib.Data.List.Sigma
import Mathlib.Tactic.MkIffOfInductiveProp
import Subgraph.Proofs.Builds
import Subgraph.Proofs.Identifiers

/-!
# MemberNames — the names of getters, of parameters and of methods

A getter and a parameter of a method are called by the word that the name of a parameter leaves.  A
word that cannot stand gets an underscore before it, and a parameter without a name is called by a
word and its place.  Names that are made like this are not compared with the others in the list.

A method has a name that was handed out, and a second method has this name behind `try_`.  Only
the names that are handed out are compared with each other.

* `identifier_eq`, `marked_inj`: words, with and without an underscore before them.
* `nodup_placedNames_iff`: the names that a list of parameters gets differ from each other just when
  its words do and are none of the names that are made (`ParamsApart`).
* `isApart_declarations_iff`: so it is for the getters and the methods of an interface.
* `nodup_methods_iff`: the methods of a contract have different names just when no name that was
  handed out is another one behind `try_`.
-/

namespace Subgraph

open Generated

/-! ### Words of names -/

namespace Text

/-- The word that a name leaves: an underscore stands for each character that no word has. -/
def wordOf (name : String) : String := String.ofList (name.toList.map wordChar)

/-- The word cannot stand as it is: it begins with a digit, or is reserved. -/
def NeedsMark (word : String) : Prop :=
  word.toList.head?.any Char.isDigit = true ∨ word ∈ reservedWords

instance : DecidablePred NeedsMark := fun word =>
  inferInstanceAs (Decidable (word.toList.head?.any Char.isDigit = true ∨ word ∈ reservedWords))

/-- A word, behind an underscore if it cannot stand as it is. -/
def marked (word : String) : String := if NeedsMark word then "_" ++ word else word

theorem wordOf_eq_empty_iff {name : String} : wordOf name = "" ↔ name = "" := by
  rw [wordOf, ← String.toList_eq_nil_iff, String.toList_ofList, List.map_eq_nil_iff,
    String.toList_eq_nil_iff]

/-- What stands for a name: the fallback if it is empty, and otherwise its word. -/
theorem identifier_eq (name fallback : String) :
    identifier name fallback = if name = "" then fallback else marked (wordOf name) := by
  by_cases none : name = ""
  · rw [if_pos none, none]
    rfl
  · obtain ⟨c, cs, first⟩ : ∃ c cs, (wordOf name).toList = c :: cs :=
      List.exists_cons_of_ne_nil fun empty =>
        none (wordOf_eq_empty_iff.mp (String.toList_eq_nil_iff.mp empty))
    rw [if_neg none, marked, identifier, ← wordOf, first]
    refine if_congr ?_ rfl rfl
    rw [NeedsMark, first, Bool.or_eq_true, List.contains_iff_mem]
    rfl

theorem IsIdentifier.not_needsMark {word : String} (h : IsIdentifier word) : ¬ NeedsMark word := by
  rintro (digit | reserved)
  · obtain ⟨c, first, digit⟩ := (Option.any_eq_true _ _).mp digit
    rw [h.start c first] at digit
    cases digit
  · exact h.unreserved reserved

theorem not_needsMark_append (word : String) : ¬ NeedsMark ("_" ++ word) := by
  rintro (digit | reserved)
  · rw [String.toList_append] at digit
    cases digit
  · have under : '_' ∈ ("_" ++ word).toList := by
      rw [String.toList_append]
      exact List.mem_cons_self
    exact absurd (isLower_of_mem_reservedWords reserved under) (by decide)

/-- **Two words stand under one name** if they are one word, or one of them is the other behind the
underscore that this one needs. -/
theorem marked_inj {v w : String} : marked v = marked w ↔
    v = w ∨ (NeedsMark v ∧ w = "_" ++ v) ∨ (NeedsMark w ∧ v = "_" ++ w) := by
  constructor
  · intro h
    unfold marked at h
    split at h <;> split at h
    · exact .inl ((String.append_right_inj "_").mp h)
    · next needs _ => exact .inr (.inl ⟨needs, h.symm⟩)
    · next _ needs => exact .inr (.inr ⟨needs, h⟩)
    · exact .inl h
  · rintro (rfl | ⟨needs, rfl⟩ | ⟨needs, rfl⟩)
    · rfl
    · rw [marked, if_pos needs, marked, if_neg (not_needsMark_append v)]
    · rw [marked, if_neg (not_needsMark_append w), marked, if_pos needs]

/-- What is no word behind the underscore that this one needs stands for no other word. -/
theorem marked_eq_iff_of_unmarked {word given : String} (h : ¬ NeedsMark given)
    (other : ∀ rest, given = "_" ++ rest → ¬ NeedsMark rest) :
    marked word = given ↔ word = given := by
  have itself : marked given = given := if_neg h
  conv_lhs => rw [← itself, marked_inj]
  refine or_iff_left ?_
  rintro (⟨needs, same⟩ | ⟨needs, -⟩)
  · exact other word same needs
  · exact h needs

/-- An identifier without an underscore at its start stands for no other word. -/
theorem marked_eq_iff {word given : String} (h : IsIdentifier given)
    (first : given.toList.head? ≠ some '_') : marked word = given ↔ word = given := by
  refine marked_eq_iff_of_unmarked h.not_needsMark fun rest same => absurd ?_ first
  rw [same, String.toList_append]
  rfl

/-- An identifier without an underscore is the word of no other name. -/
theorem wordOf_eq_iff {name given : String} (h : IsIdentifier given)
    (free : '_' ∉ given.toList) : wordOf name = given ↔ name = given := by
  have kept {name : String} (all : ∀ c ∈ name.toList, isWordChar c = true) : wordOf name = name := by
    have each : ∀ c ∈ name.toList, wordChar c = c := fun c hc => if_pos (all c hc)
    rw [wordOf, List.map_congr_left each, List.map_id', String.ofList_toList]
  constructor
  · rintro rfl
    -- a character that no word has would have left an underscore
    refine (kept fun c hc => Decidable.byContradiction fun other => free ?_).symm
    rw [wordOf, String.toList_ofList]
    exact List.mem_map.mpr ⟨c, hc, if_neg other⟩
  · rintro rfl
    exact kept h.isWord

end Text

open Text

/-! ### Parameters in their places -/

namespace Ethereum

/-- The name that is made for a parameter in its place, if it has none or its word cannot stand, is
not the word of another one. -/
@[mk_iff]
structure Clear (word : String) (placed : Param × Nat) (other : Param) : Prop where
  mark : NeedsMark (wordOf placed.1.name) → wordOf other.name ≠ "_" ++ wordOf placed.1.name
  place : placed.1.name = "" → wordOf other.name ≠ word ++ toString placed.2

/-- The words of parameters differ from each other, and none of them is a name that is made for a
parameter. -/
@[mk_iff]
structure ParamsApart (word : String) (params : List Param) : Prop where
  words : ((params.map fun p => wordOf p.name).filter (· ≠ "")).Nodup
  clear : ∀ placed ∈ params.zipIdx, ∀ other ∈ params, Clear word placed other

/-- The word is an identifier that does not begin with an underscore. -/
structure IsPlaceWord (word : String) : Prop where
  identifier : IsIdentifier word
  first : word.toList.head? ≠ some '_'

theorem isPlaceWord_param : IsPlaceWord "param" := ⟨isIdentifier_text rfl, by decide⟩

theorem isPlaceWord_value : IsPlaceWord "value" := ⟨isIdentifier_text rfl, by decide⟩

section Names

variable {word : String} {a b : Param × Nat} {p : Param} {params : List Param}

theorem placedName_of_unnamed (ha : a.1.name = "") :
    placedName word a = word ++ toString a.2 := by
  rw [placedName, identifier_eq, if_pos ha]

theorem placedName_of_named (ha : a.1.name ≠ "") :
    placedName word a = marked (wordOf a.1.name) := by
  rw [placedName, identifier_eq, if_neg ha]

theorem clear_iff_of_unnamed (ha : a.1.name = "") :
    Clear word a p ↔ wordOf p.name ≠ word ++ toString a.2 := by
  have unmarked : ¬ NeedsMark (wordOf a.1.name) := by
    rw [wordOf_eq_empty_iff.mpr ha]
    decide
  exact ⟨fun h => h.place ha, fun h => ⟨fun needs => absurd needs unmarked, fun _ => h⟩⟩

theorem clear_iff_of_named (ha : a.1.name ≠ "") : Clear word a p ↔
    (NeedsMark (wordOf a.1.name) → wordOf p.name ≠ "_" ++ wordOf a.1.name) :=
  ⟨Clear.mark, fun h => ⟨h, fun none => absurd none ha⟩⟩

/-- No name that is made is empty. -/
theorem clear_of_unnamed (hw : IsPlaceWord word) (hp : p.name = "") : Clear word a p := by
  constructor
  · intro _ same
    rw [wordOf_eq_empty_iff.mpr hp] at same
    exact absurd (String.append_eq_empty_iff.mp same.symm).1 (by decide)
  · intro _ same
    rw [wordOf_eq_empty_iff.mpr hp] at same
    exact hw.identifier.nonempty (String.append_eq_empty_iff.mp same.symm).1

/-- The word of a parameter is not the name that is made for it. -/
theorem clear_self (hw : IsPlaceWord word) (a : Param × Nat) : Clear word a a.1 := by
  by_cases ha : a.1.name = ""
  · exact clear_of_unnamed hw ha
  · refine (clear_iff_of_named ha).mpr fun _ same => ?_
    have length := congrArg String.length same
    rw [String.length_append] at length
    exact absurd length (Nat.ne_of_lt (Nat.lt_add_of_pos_left (by decide)))

/-- A parameter without a name gets that of another one just when this is the word of the other. -/
theorem placedName_eq_iff_of_unnamed (hw : IsPlaceWord word) (ha : a.1.name = "")
    (hb : b.1.name ≠ "") :
    placedName word a = placedName word b ↔ wordOf b.1.name = word ++ toString a.2 := by
  have start : (word ++ toString a.2).toList.head? ≠ some '_' := by
    rw [String.toList_append, List.head?_append_of_ne_nil]
    · exact hw.first
    · exact fun none => hw.identifier.nonempty (String.toList_eq_nil_iff.mp none)
  rw [placedName_of_unnamed ha, placedName_of_named hb, eq_comm]
  exact marked_eq_iff (hw.identifier.append_repr a.2) start

/-- **Parameters in different places get different names** just when their words differ, and neither
is the name that is made for the other. -/
theorem placedName_ne_iff (hw : IsPlaceWord word) (places : a.2 ≠ b.2) :
    placedName word a ≠ placedName word b ↔
      (wordOf a.1.name ≠ "" → wordOf b.1.name ≠ "" → wordOf a.1.name ≠ wordOf b.1.name) ∧
        Clear word a b.1 ∧ Clear word b a.1 := by
  rw [Ne, Ne, wordOf_eq_empty_iff, Ne, wordOf_eq_empty_iff]
  by_cases ha : a.1.name = "" <;> by_cases hb : b.1.name = ""
  · -- two names that are made: the places tell them apart
    rw [placedName_of_unnamed ha, placedName_of_unnamed hb]
    refine iff_of_true (fun same => places (suffixed_inj same)) ⟨fun any => absurd ha any, ?_⟩
    exact ⟨clear_of_unnamed hw hb, clear_of_unnamed hw ha⟩
  · -- a name that is made and a word, and the other way round in the next case
    rw [placedName_eq_iff_of_unnamed hw ha hb, clear_iff_of_unnamed ha]
    exact ⟨fun h => ⟨fun any => absurd ha any, h, clear_of_unnamed hw ha⟩, fun h => h.2.1⟩
  · rw [eq_comm, placedName_eq_iff_of_unnamed hw hb ha, clear_iff_of_unnamed hb]
    exact ⟨fun h => ⟨fun _ any => absurd hb any, clear_of_unnamed hw hb, h⟩, fun h => h.2.2⟩
  · rw [placedName_of_named ha, placedName_of_named hb, marked_inj, clear_iff_of_named ha,
      clear_iff_of_named hb]
    simp only [not_or, not_and, ne_eq, ha, hb, not_false_eq_true, forall_const]

theorem pairwise_words_iff :
    params.zipIdx.Pairwise (fun a b => wordOf a.1.name ≠ "" → wordOf b.1.name ≠ "" →
        wordOf a.1.name ≠ wordOf b.1.name) ↔
      ((params.map fun p => wordOf p.name).filter (· ≠ "")).Nodup := by
  conv_rhs => rw [← List.zipIdx_map_fst 0 params, List.map_map, List.Nodup, List.pairwise_filter,
    List.pairwise_map]
  simp only [Function.comp_apply, decide_eq_true_eq]

theorem forall_mem_zipIdx {P : Param → Prop} :
    (∀ placed ∈ params.zipIdx, P placed.1) ↔ ∀ p ∈ params, P p := by
  conv_rhs => rw [← List.zipIdx_map_fst 0 params, List.forall_mem_map]

theorem pairwise_clear_iff (hw : IsPlaceWord word) :
    (params.zipIdx.Pairwise fun a b => Clear word a b.1 ∧ Clear word b a.1) ↔
      ∀ placed ∈ params.zipIdx, ∀ other ∈ params, Clear word placed other := by
  have symm : Std.Symm fun a b : Param × Nat => Clear word a b.1 ∧ Clear word b a.1 :=
    ⟨fun _ _ h => h.symm⟩
  constructor
  · intro h a ha
    refine forall_mem_zipIdx.mp fun b hb => ?_
    exact (h.forall_of_forall (fun a _ => ⟨clear_self hw a, clear_self hw a⟩) ha hb).1
  · intro h
    refine List.pairwise_of_forall_mem_list fun a ha b hb => ?_
    exact ⟨forall_mem_zipIdx.mpr (h a ha) b hb, forall_mem_zipIdx.mpr (h b hb) a ha⟩

/-- **The names that a list of parameters gets differ from each other** just when the parameters are
apart. -/
theorem nodup_placedNames_iff (hw : IsPlaceWord word) :
    (params.zipIdx.map (placedName word)).Nodup ↔ ParamsApart word params := by
  have places : params.zipIdx.Pairwise fun a b => a.2 ≠ b.2 :=
    List.pairwise_map.mp (List.nodup_zipIdx_map_snd params)
  have pairs : (params.zipIdx.map (placedName word)).Nodup ↔
      params.zipIdx.Pairwise fun a b =>
        (wordOf a.1.name ≠ "" → wordOf b.1.name ≠ "" → wordOf a.1.name ≠ wordOf b.1.name) ∧
          Clear word a b.1 ∧ Clear word b a.1 := by
    rw [List.Nodup, List.pairwise_map]
    exact ⟨fun h => (places.and h).imp fun h => (placedName_ne_iff hw h.1).mp h.2,
      fun h => (places.and h).imp fun h => (placedName_ne_iff hw h.1).mpr h.2⟩
  rw [pairs, List.pairwise_and_iff, pairwise_words_iff, pairwise_clear_iff hw]
  exact ⟨fun h => ⟨h.1, h.2⟩, fun h => ⟨h.words, h.clear⟩⟩

end Names

end Ethereum

/-! ### Classes -/

/-- The getters of a class have different names, and so have the parameters of each member. -/
@[mk_iff]
structure Generated.ClassDecl.IsApart (c : ClassDecl) : Prop where
  getters : (c.getters.filterMap Member.declared?).Nodup
  parameters : ∀ m ∈ c.members, (m.parameters.map Parameter.name).Nodup

namespace Ethereum

section Related

variable {α β γ : Type} {R : α → β → Prop} {xs : List α} {ys : List β}

theorem filterMap_eq_of_forall₂ {f : α → γ} {g : β → Option γ} (h : List.Forall₂ R xs ys)
    (same : ∀ x y, R x y → g y = some (f x)) : ys.filterMap g = xs.map f := by
  induction h with
  | nil => rfl
  | cons hR _ ih => rw [List.filterMap_cons_some (same _ _ hR), List.map_cons, ih]

theorem forall_mem_iff_of_forall₂ {P : α → Prop} {Q : β → Prop} (h : List.Forall₂ R xs ys)
    (same : ∀ x y, R x y → (Q y ↔ P x)) : (∀ y ∈ ys, Q y) ↔ ∀ x ∈ xs, P x := by
  induction h with
  | nil => exact ⟨nofun, nofun⟩
  | cons hR _ ih => rw [List.forall_mem_cons, List.forall_mem_cons, same _ _ hR, ih]

theorem Bound.forall_mem_iff {request : α → String} {Belongs : String → α → β → Prop}
    {P : α → Prop} {Q : β → Prop} (h : Bound request Belongs xs ys)
    (same : ∀ name x y, Belongs name x y → (Q y ↔ P x)) : (∀ y ∈ ys, Q y) ↔ ∀ x ∈ xs, P x := by
  obtain ⟨named, -, items, each⟩ := h
  rw [forall_mem_iff_of_forall₂ (P := fun given => P given.2) each fun _ _ hb => same _ _ _ hb,
    ← items, List.forall_mem_map]

theorem forall_mem_flatMap_pair {f g : α → β} {Q : β → Prop} :
    (∀ y ∈ xs.flatMap fun x => [f x, g x], Q y) ↔ ∀ x ∈ xs, Q (f x) ∧ Q (g x) := by
  rw [List.forall_mem_flatMap]
  refine forall₂_congr fun x _ => ?_
  rw [List.forall_mem_cons, List.forall_mem_singleton]

theorem Bound.exists_belongs {request : α → String} {Belongs : String → α → β → Prop}
    (h : Bound request Belongs xs ys) : ∀ y ∈ ys, ∃ name x, Belongs name x y := by
  obtain ⟨named, -, -, each⟩ := h
  exact forall_mem_of_forall₂ each fun given _ y hb => ⟨given.1, given.2, hb⟩

end Related

section Classes

variable {word name : String} {inputs outputs params : List Param} {classes : List ClassDecl}

theorem paramsApart_nil : ParamsApart word [] := ⟨List.nodup_nil, nofun⟩

theorem AreGetters.filterMap_declared? {field list : String} {getters : List Member}
    (h : AreGetters word field list params getters) :
    getters.filterMap Member.declared? = params.zipIdx.map (placedName word) := by
  refine filterMap_eq_of_forall₂ h fun placed m hm => ?_
  obtain ⟨type, -, rfl⟩ := hm
  rfl

theorem getters_holder {field list owner : String} {getters : List Member}
    (h : AreGetters word field list params getters) :
    (holder name owner field getters).getters = getters := by
  refine List.filter_eq_self.mpr (forall_mem_of_forall₂ h fun placed _ m hm => ?_)
  obtain ⟨type, -, rfl⟩ := hm
  rfl

/-- The class that reads parameters is apart just when they are. -/
theorem isApart_holder_iff {field list owner : String} {getters : List Member}
    (h : AreGetters word field list params getters) (hw : IsPlaceWord word) :
    (holder name owner field getters).IsApart ↔ ParamsApart word params := by
  rw [← nodup_placedNames_iff hw, ← h.filterMap_declared?]
  constructor
  · intro apart
    rw [← getters_holder h]
    exact apart.getters
  · intro distinct
    refine ⟨by rwa [getters_holder h], List.forall_mem_cons.mpr ⟨List.nodup_nil,
      List.forall_mem_cons.mpr ⟨List.nodup_singleton _, ?_⟩⟩⟩
    refine forall_mem_of_forall₂ h fun placed _ m hm => ?_
    obtain ⟨type, -, rfl⟩ := hm
    exact List.nodup_nil

theorem IsEventBinding.isApart_iff {e : Event} (h : IsEventBinding name e classes) :
    (∀ c ∈ classes, c.IsApart) ↔ ParamsApart "param" e.inputs := by
  obtain ⟨getters, rfl, each⟩ := h
  have reader (base? : Option String) (wrapper : String) :
      ClassDecl.IsApart ⟨name, base?, [wrapGetter "params" wrapper]⟩ :=
    ⟨List.nodup_singleton _, List.forall_mem_singleton.mpr List.nodup_nil⟩
  rw [List.forall_mem_cons, List.forall_mem_singleton, isApart_holder_iff each isPlaceWord_param]
  exact and_iff_right (reader _ _)

theorem IsCallBinding.isApart_iff (h : IsCallBinding name inputs outputs classes) :
    (∀ c ∈ classes, c.IsApart) ↔ ParamsApart "value" inputs ∧ ParamsApart "value" outputs := by
  obtain ⟨ins, outs, rfl, eachIn, eachOut⟩ := h
  have reader (base? : Option String) (w w' : String) :
      ClassDecl.IsApart ⟨name, base?, [wrapGetter "inputs" w, wrapGetter "outputs" w']⟩ := by
    refine ⟨?_, List.forall_mem_cons.mpr ⟨List.nodup_nil,
      List.forall_mem_singleton.mpr List.nodup_nil⟩⟩
    exact show ["inputs", "outputs"].Nodup by decide
  rw [List.forall_mem_cons, List.forall_mem_cons, List.forall_mem_singleton,
    isApart_holder_iff eachIn isPlaceWord_value, isApart_holder_iff eachOut isPlaceWord_value]
  exact and_iff_right (reader _ _ _)

/-- A method that calls a function has the name that was handed out, and parameters with the names
that the inputs of the function get. -/
theorem IsCaller.names {way : String} {f : Function} {m : Member} (h : IsCaller name way f m) :
    m.declared? = some name ∧
      m.parameters.map Parameter.name = f.inputs.zipIdx.map (placedName "param") := by
  obtain ⟨passed, call, type, rest, each, -, rfl⟩ := h
  refine ⟨rfl, ?_⟩
  change (passed.map Prod.fst).map Parameter.name = _
  rw [List.map_map, ← List.filterMap_eq_map]
  refine filterMap_eq_of_forall₂ each fun placed given hg => ?_
  obtain ⟨type, -, parameter, -⟩ := hg
  rw [Function.comp_apply, Function.comp_apply, parameter]

theorem IsMethodPair.parameters_iff {f : Function} {pair : Member × Member}
    (h : IsMethodPair name f pair) :
    (pair.1.parameters.map Parameter.name).Nodup ∧ (pair.2.parameters.map Parameter.name).Nodup ↔
      ParamsApart "param" f.inputs := by
  rw [h.1.names.2, h.2.names.2, and_self_iff]
  exact nodup_placedNames_iff isPlaceWord_param

/-- The class of a contract has no getters, so it is apart just when the inputs of its functions
are. -/
theorem IsContractBinding.isApart_iff {abiName : String} {abi : Abi} {c : ClassDecl}
    (h : IsContractBinding abiName abi c) : c.IsApart ↔
      ∀ f ∈ abi.functions.filter Function.isCallable, ParamsApart "param" f.inputs := by
  obtain ⟨pairs, rfl, each⟩ := h
  rw [← each.forall_mem_iff fun _ _ _ hp => hp.parameters_iff]
  constructor
  · intro apart
    have methods := (List.forall_mem_cons.mp apart.parameters).2
    rwa [forall_mem_flatMap_pair] at methods
  · intro distinct
    refine ⟨?_, List.forall_mem_cons.mpr
      ⟨List.nodup_singleton _, forall_mem_flatMap_pair.mpr distinct⟩⟩
    have none : ClassDecl.getters ⟨contractName abiName, some "ethereum.SmartContract",
        bindMethod abiName :: pairs.flatMap fun pair => [pair.1, pair.2]⟩ = [] := by
      refine List.filter_eq_nil_iff.mpr (List.forall_mem_cons.mpr ⟨Bool.false_ne_true, ?_⟩)
      refine forall_mem_flatMap_pair.mpr fun pair hp => ?_
      obtain ⟨name, f, ⟨_, _, _, _, -, -, first⟩, ⟨_, _, _, _, -, -, second⟩⟩ :=
        each.exists_belongs pair hp
      rw [first, second]
      exact ⟨Bool.false_ne_true, Bool.false_ne_true⟩
    rw [none]
    exact List.nodup_nil

end Classes

/-! ### Interfaces -/

section Interfaces

variable {abiName : String} {abi : Abi} {groups : List (List ClassDecl)} {c : ClassDecl}

/-- The lists of parameters that have getters or are parameters of methods, each with the word for
parameters without a name: those of events, of functions that can be called for their results, of
the constructor, and of functions that change the contract. -/
def parameterLists (abi : Abi) : List (String × List Param) :=
  (abi.events.map fun e => ("param", e.inputs))
    ++ ((abi.functions.filter Function.isCallable).map fun f => ("param", f.inputs))
    ++ (abi.constructor?.toList.map fun inputs => ("value", inputs))
    ++ (abi.functions.filter fun f => !f.isReadOnly).flatMap fun f =>
      [("value", f.inputs), ("value", f.outputs)]

/-- **No class of an interface has two getters of one name, and no method two parameters of one
name,** just when each list of parameters is apart.

Names that differ are not enough for this: two of them may leave one word, and a word may be what
is made for a parameter without a name, or for a word that cannot stand. -/
theorem isApart_declarations_iff (made : declarations abiName abi = .ok groups) :
    (∀ classes ∈ groups, ∀ c ∈ classes, c.IsApart) ↔
      ∀ list ∈ parameterLists abi, ParamsApart list.1 list.2 := by
  obtain ⟨events, contract, creation, calls, rfl, he, hc, hk, hf⟩ :=
    (uses_declarations abiName abi).of_ok made
  have creations : (∀ classes ∈ creation, ∀ c ∈ classes, c.IsApart) ↔
      ∀ inputs ∈ abi.constructor?.toList, ParamsApart "value" inputs :=
    forall_mem_iff_of_forall₂ hk fun _ _ hb =>
      hb.isApart_iff.trans (and_iff_left paramsApart_nil)
  rw [List.forall_mem_append, List.forall_mem_append, List.forall_mem_append,
    he.forall_mem_iff fun _ _ _ hb => hb.isApart_iff, List.forall_mem_singleton,
    List.forall_mem_singleton, hc.isApart_iff, creations,
    hf.forall_mem_iff fun _ _ _ hb => hb.isApart_iff]
  simp only [parameterLists, List.forall_mem_append, List.forall_mem_map, forall_mem_flatMap_pair]

instance (word : String) (placed : Param × Nat) (other : Param) :
    Decidable (Clear word placed other) := decidable_of_iff' _ (clear_iff ..)

instance (word : String) (params : List Param) : Decidable (ParamsApart word params) :=
  decidable_of_iff' _ (paramsApart_iff ..)

instance (c : ClassDecl) : Decidable c.IsApart := decidable_of_iff' _ (ClassDecl.isApart_iff c)

/-- An interface with parameters that have no names, or reserved words for names.  The constructor
has the name that is made for a parameter in its place. -/
def swaps : Abi where
  constructor? := some [.mk "" "address" [], .mk "value1" "bool" []]
  functions := [⟨"quote", [.mk "from" "address" [], .mk "" "uint8" []], [.mk "" "bool" []], .view⟩]
  events := [⟨"Swap", [.mk "in" "uint8" [], .mk "" "uint8" []]⟩]

theorem isApart_declarations_iff_swaps : ∃ groups, declarations "Pool" swaps = .ok groups ∧
    ∀ classes ∈ groups, ∀ c ∈ classes, c.IsApart := by
  have made : (declarations "Pool" swaps).toOption.any (fun _ => true) = true := by decide +kernel
  have apart : ∀ list ∈ parameterLists swaps, ParamsApart list.1 list.2 := by decide +kernel
  obtain ⟨groups, made, -⟩ := exists_of_any made
  exact ⟨groups, made, (isApart_declarations_iff made).mpr apart⟩

/-- An interface with an event that has a parameter without a name, behind one that is called as
this is going to be. -/
def positioned : String :=
  "[\x7b\"type\":\"event\",\"name\":\"E\",\"anonymous\":false,\"inputs\":[" ++
  "\x7b\"name\":\"param1\",\"type\":\"bool\",\"indexed\":false\x7d," ++
  "\x7b\"name\":\"\",\"type\":\"bool\",\"indexed\":false\x7d]\x7d]"

/-- Though no two parameters have one name, two getters have. -/
theorem not_isApart_positioned : ∃ abi groups, Abi.parse positioned = .ok abi ∧
    declarations "A" abi = .ok groups ∧
    (∀ list ∈ parameterLists abi, ((list.2.map Param.name).filter (· ≠ "")).Nodup) ∧
    ¬ ∀ classes ∈ groups, ∀ c ∈ classes, c.IsApart := by
  have readable : (Abi.parse positioned).toOption.any (fun abi =>
      (declarations "A" abi).toOption.any fun groups =>
        decide ((∀ list ∈ parameterLists abi, ((list.2.map Param.name).filter (· ≠ "")).Nodup) ∧
          ¬ ∀ classes ∈ groups, ∀ c ∈ classes, c.IsApart)) = true := by decide +kernel
  obtain ⟨abi, parsed, made⟩ := exists_of_any readable
  obtain ⟨groups, made, clash⟩ := exists_of_any made
  exact ⟨abi, groups, parsed, made, of_decide_eq_true clash⟩

/-! ### Methods -/

/-- The names handed out to the functions that can be called for their results. -/
def methodNames (abi : Abi) : List String :=
  distinctNames ((abi.functions.filter Function.isCallable).map methodName)

/-- The methods of a contract are those of its functions, two for each, in order. -/
theorem filterMap_declared?_pairs {named : List (String × Function)}
    {pairs : List (Member × Member)}
    (h : List.Forall₂ (fun given pair => IsMethodPair given.1 given.2 pair) named pairs) :
    (pairs.flatMap fun pair => [pair.1, pair.2]).filterMap Member.declared? =
      (named.map Prod.fst).flatMap fun name => [name, "try_" ++ name] := by
  induction h with
  | nil => rfl
  | cons hp _ ih =>
      rw [List.flatMap_cons, List.filterMap_append, ih, List.map_cons, List.flatMap_cons,
        List.filterMap_cons_some hp.1.names.1, List.filterMap_cons_some hp.2.names.1,
        List.filterMap_nil]

theorem IsContractBinding.filterMap_declared? (h : IsContractBinding abiName abi c) :
    c.members.filterMap Member.declared? =
      (methodNames abi).flatMap fun name => [name, "try_" ++ name] := by
  obtain ⟨pairs, rfl, named, names, -, each⟩ := h
  rw [methodNames, ← names, ← filterMap_declared?_pairs each]
  rfl

/-- **The methods of a contract have different names** just when no name that was handed out is
another one behind `try_`. -/
theorem nodup_methods_iff (made : contractClass abiName abi = .ok c) :
    (c.members.filterMap Member.declared?).Nodup ↔
      ∀ name ∈ methodNames abi, "try_" ++ name ∉ methodNames abi := by
  have distinct : (methodNames abi).Nodup := nodup_distinctNames _
  have inj : Function.Injective ("try_" ++ ·) := fun _ _ => (String.append_right_inj "try_").mp
  have apart : (methodNames abi ++ (methodNames abi).map ("try_" ++ ·)).Perm
      ((methodNames abi).flatMap fun name => [name, "try_" ++ name]) := by
    have pairs := List.map_append_flatMap_perm (methodNames abi) id fun name => ["try_" ++ name]
    rwa [List.map_id, ← List.map_eq_flatMap] at pairs
  rw [((uses_contractClass abiName abi).of_ok made).filterMap_declared?, ← apart.nodup_iff,
    List.nodup_append']
  constructor
  · rintro ⟨-, -, disjoint⟩ name hn tried
    exact disjoint tried (List.mem_map_of_mem hn)
  · intro free
    refine ⟨distinct, distinct.map inj, fun tried ht hm => ?_⟩
    obtain ⟨name, hn, rfl⟩ := List.mem_map.mp hm
    exact free name hn ht

/-- An interface with overloads, and with a function whose name begins as those of second methods
do. -/
def quotes : Abi where
  constructor? := none
  functions := [
    ⟨"quote", [], [.mk "" "bool" []], .view⟩,
    ⟨"quote", [.mk "from" "address" []], [.mk "" "bool" []], .view⟩,
    ⟨"try_swap", [], [.mk "" "bool" []], .pure⟩]
  events := []

theorem nodup_methods_iff_quotes : ∃ c, contractClass "Pool" quotes = .ok c ∧
    (c.members.filterMap Member.declared?).Nodup := by
  have made : (contractClass "Pool" quotes).toOption.any (fun _ => true) = true := by
    decide +kernel
  have apart : ∀ name ∈ methodNames quotes, "try_" ++ name ∉ methodNames quotes := by
    decide +kernel
  obtain ⟨c, made, -⟩ := exists_of_any made
  exact ⟨c, made, (nodup_methods_iff made).mpr apart⟩

/-- An interface with a function that is called like the second method of another one. -/
def attempts : String :=
  "[\x7b\"type\":\"function\",\"name\":\"quote\",\"stateMutability\":\"view\"," ++
  "\"inputs\":[],\"outputs\":[\x7b\"name\":\"\",\"type\":\"bool\"\x7d]\x7d," ++
  "\x7b\"type\":\"function\",\"name\":\"try_quote\",\"stateMutability\":\"view\"," ++
  "\"inputs\":[],\"outputs\":[\x7b\"name\":\"\",\"type\":\"bool\"\x7d]\x7d]"

/-- Both functions have a method `try_quote`. -/
theorem not_nodup_methods_attempts : ∃ abi c, Abi.parse attempts = .ok abi ∧
    contractClass "A" abi = .ok c ∧ ¬ (c.members.filterMap Member.declared?).Nodup := by
  have readable : (Abi.parse attempts).toOption.any (fun abi =>
      (contractClass "A" abi).toOption.any fun c =>
        decide ¬ (c.members.filterMap Member.declared?).Nodup) = true := by decide +kernel
  obtain ⟨abi, parsed, made⟩ := exists_of_any readable
  obtain ⟨c, made, clash⟩ := exists_of_any made
  exact ⟨abi, c, parsed, made, of_decide_eq_true clash⟩

end Interfaces

end Ethereum

end Subgraph

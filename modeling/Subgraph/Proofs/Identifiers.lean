import Subgraph.Proofs.Completeness
import Subgraph.Proofs.Tidy
import Subgraph.Template

/-!
# Identifiers — every declared name is a legal one

Names of interfaces, events, functions, parameters, attributes and templates are free text.  What is
declared for them is an identifier of the generated source: it is not empty, it has letters, digits,
underscores and dollar signs only, does not begin with a digit, and is no reserved word.

Reserved words are made of lower-case letters (`isLower_of_mem_reservedWords`).  So a name with any
other character in it is not reserved, and neither a suffix nor a prefix with such a character makes
a reserved word (`IsIdentifier.append`).

* `isIdentifier_identifier`, `isIdentifier_of_mem_distinctNames`: the names that are made of free
  text, and those that are handed out.
* `Generated.ClassDecl.IsLegal`: all that a class declares has identifiers for names.
* `isLegal_of_declares`, `Cosmos.isLegal_eventClasses`, `TemplateStyle.isLegal_templateClass`: so it
  is for contract interfaces, event definitions and templates.
-/

namespace Subgraph

open Layout

/-! ### Identifiers -/

namespace Text

/-- The text is an identifier of the generated source. -/
structure IsIdentifier (name : String) : Prop where
  nonempty : name ≠ ""
  chars : ∀ c ∈ name.toList, c.isAlpha ∨ c.isDigit ∨ c = '_' ∨ c = '$'
  start : ∀ c ∈ name.toList.head?, c.isDigit = false
  unreserved : name ∉ reservedWords

theorem isWordChar_iff {c : Char} :
    isWordChar c = true ↔ c.isAlpha ∨ c.isDigit ∨ c = '_' ∨ c = '$' := by
  simp only [isWordChar, Char.isAlphanum, Bool.or_eq_true, beq_iff_eq, or_assoc]

theorem IsIdentifier.isWord {name : String} (h : IsIdentifier name) : IsWord name :=
  fun c hc => isWordChar_iff.mpr (h.chars c hc)

/-- A given text is checked to be an identifier. -/
theorem isIdentifier_text {name : String}
    (h : (name.toList.all isWordChar && name.toList.head?.any (!·.isDigit)
      && !reservedWords.contains name) = true) : IsIdentifier name := by
  simp only [Bool.and_eq_true, List.all_eq_true, Option.any_eq_true, Bool.not_eq_true',
    List.contains_eq_mem, decide_eq_false_iff_not] at h
  obtain ⟨⟨chars, c, first, start⟩, unreserved⟩ := h
  refine ⟨?_, fun d hd => isWordChar_iff.mp (chars d hd), ?_, unreserved⟩
  · rintro rfl
    cases first
  · rintro d hd
    rw [first] at hd
    cases hd
    exact start

theorem isLower_of_mem_reservedWords {word : String} (h : word ∈ reservedWords) {c : Char}
    (hc : c ∈ word.toList) : c.isLower = true := by
  have all : (reservedWords.all fun word => word.toList.all Char.isLower) = true := rfl
  exact List.all_eq_true.mp (List.all_eq_true.mp all word h) c hc

/-- The text has a character that no reserved word has. -/
def IsMarked (text : String) : Prop := ∃ c ∈ text.toList, c.isLower = false

theorem isMarked_text {text : String} (h : text.toList.any (!·.isLower) = true) :
    IsMarked text := by
  obtain ⟨c, hc, hl⟩ := List.any_eq_true.mp h
  exact ⟨c, hc, Bool.not_eq_true' _ ▸ hl⟩

theorem IsMarked.notMem_reservedWords {text : String} (h : IsMarked text) :
    text ∉ reservedWords := by
  obtain ⟨c, hc, hl⟩ := h
  intro hr
  rw [isLower_of_mem_reservedWords hr hc] at hl
  cases hl

theorem isMarked_append {a b : String} : IsMarked (a ++ b) ↔ IsMarked a ∨ IsMarked b := by
  simp only [IsMarked, String.toList_append, List.mem_append, or_and_right, exists_or]

/-- More characters of words behind an identifier make an identifier, if there is one among all
that no reserved word has.  Without one they may not: `i` is an identifier, and `if` is reserved. -/
theorem IsIdentifier.append {name suffix : String} (h : IsIdentifier name) (hs : IsWord suffix)
    (marked : IsMarked name ∨ IsMarked suffix) : IsIdentifier (name ++ suffix) where
  nonempty he := h.nonempty (String.append_eq_empty_iff.mp he).1
  chars c hc := isWordChar_iff.mp (h.isWord.append hs c hc)
  start c hc := by
    rw [String.toList_append, List.head?_append] at hc
    cases hh : name.toList.head? with
    | none => exact absurd (String.toList_eq_nil_iff.mp (List.head?_eq_none_iff.mp hh)) h.nonempty
    | some d =>
        rw [hh] at hc
        cases hc
        exact h.start c hh
  unreserved := (isMarked_append.mpr marked).notMem_reservedWords

theorem isLower_eq_false_of_isDigit {c : Char} (h : c.isDigit = true) : c.isLower = false := by
  have le : c.val ≤ '9'.val := of_decide_eq_true (Bool.and_eq_true_iff.mp h).2
  refine Bool.eq_false_iff.mpr fun hl => ?_
  have ge : 'a'.val ≤ c.val := of_decide_eq_true (Bool.and_eq_true_iff.mp hl).1
  exact absurd (UInt32.le_trans ge le) (by decide)

/-- A number is written with digits, and there is one. -/
theorem isMarked_repr (n : Nat) : IsMarked n.repr := by
  rw [IsMarked, Nat.repr_eq_ofList_toDigits, String.toList_ofList]
  obtain ⟨c, hc⟩ := List.exists_mem_of_ne_nil (Nat.toDigits 10 n) Nat.toDigits_ne_nil
  have digit : c.isDigit = true := Nat.isDigit_of_mem_toDigits (by decide) (by decide) hc
  exact ⟨c, hc, isLower_eq_false_of_isDigit digit⟩

/-- A number behind an identifier makes an identifier. -/
theorem IsIdentifier.append_repr {name : String} (h : IsIdentifier name) (n : Nat) :
    IsIdentifier (name ++ n.repr) :=
  h.append (isWord_repr n) (.inr (isMarked_repr n))

/-- The names that are handed out are identifiers if the requests are. -/
theorem isIdentifier_of_mem_distinctNames {names : List String}
    (h : ∀ name ∈ names, IsIdentifier name) : ∀ name ∈ distinctNames names, IsIdentifier name :=
  forall_mem_distinctNames (fun k hn => hn.append_repr k) h

/-- What is made of each item, under the name handed out to it, has a property that it has under
every identifier, if the items ask for identifiers. -/
theorem forall_mem_zipWith_distinctNames {α β : Type} {request : α → String}
    {f : String → α → β} {P : β → Prop} (hr : ∀ x, IsIdentifier (request x))
    (hf : ∀ {name}, IsIdentifier name → ∀ x, P (f name x)) (xs : List α) :
    ∀ y ∈ List.zipWith f (distinctNames (xs.map request)) xs, P y := by
  intro y hy
  have requests : ∀ name ∈ xs.map request, IsIdentifier name :=
    List.forall_mem_map.mpr fun x _ => hr x
  rw [← List.map_uncurry_zip_eq_zipWith] at hy
  obtain ⟨given, hg, rfl⟩ := List.mem_map.mp hy
  exact hf (isIdentifier_of_mem_distinctNames requests given.1 (List.of_mem_zip hg).1) given.2

/-- What is made of free text is an identifier. -/
theorem isIdentifier_identifier (name : String) {fallback : String} (h : IsIdentifier fallback) :
    IsIdentifier (identifier name fallback) := by
  have word := isWord_map_wordChar name
  have underscore : IsIdentifier "_" := isIdentifier_text rfl
  rw [identifier]
  split
  · exact h
  · next c cs hcs =>
      -- only a digit at the start and a reserved word need an underscore before them
      split
      · exact underscore.append word (.inl (isMarked_text rfl))
      · next safe =>
          rw [Bool.or_eq_true, not_or] at safe
          refine ⟨?_, fun d hd => isWordChar_iff.mp (word d hd), ?_, ?_⟩
          · intro he
            rw [he] at hcs
            cases hcs
          · rw [hcs]
            rintro _ ⟨⟩
            exact Bool.eq_false_iff.mpr safe.1
          · exact fun hm => safe.2 (List.contains_iff_mem.mpr hm)

end Text

open Text

/-! ### What classes declare -/

namespace Generated

/-- The name of a member, if it has one. -/
def Member.name? : Member → Option String
  | .constant name _ _ | .field name _ | .getter name _ _ | .method name _ _ _
  | .function name _ _ _ => some name
  | .maker _ _ => none

/-- The names that a member declares: its own, and those of its parameters. -/
def Member.identifiers (m : Member) : List String :=
  m.name?.toList ++ m.parameters.map Parameter.name

/-- The names that a class declares: its own, and those of its members. -/
def ClassDecl.identifiers (c : ClassDecl) : List String :=
  c.name :: c.members.flatMap Member.identifiers

/-- All that a member declares has identifiers for names. -/
def Member.IsLegal (m : Member) : Prop := ∀ name ∈ m.identifiers, IsIdentifier name

/-- All that a class declares has identifiers for names. -/
def ClassDecl.IsLegal (c : ClassDecl) : Prop := ∀ name ∈ c.identifiers, IsIdentifier name

section Legal

variable {name type : String} {parameters : List Parameter} {body : List Statement}

theorem ClassDecl.isLegal_mk {base? : Option String} {members : List Member}
    (hn : IsIdentifier name) (hm : ∀ m ∈ members, m.IsLegal) :
    ClassDecl.IsLegal ⟨name, base?, members⟩ := by
  refine List.forall_mem_cons.mpr ⟨hn, fun n hn => ?_⟩
  obtain ⟨m, hmem, hn⟩ := List.mem_flatMap.mp hn
  exact hm m hmem n hn

namespace Member

theorem isLegal_field (hn : IsIdentifier name) : (field name type).IsLegal :=
  List.forall_mem_singleton.mpr hn

theorem isLegal_constant {value : Expr} (hn : IsIdentifier name) :
    (constant name type value).IsLegal :=
  List.forall_mem_singleton.mpr hn

theorem isLegal_getter (hn : IsIdentifier name) : (getter name type body).IsLegal :=
  List.forall_mem_singleton.mpr hn

theorem isLegal_maker (hp : ∀ p ∈ parameters, IsIdentifier p.name) :
    (maker parameters body).IsLegal :=
  List.forall_mem_map.mpr hp

theorem isLegal_method (hn : IsIdentifier name) (hp : ∀ p ∈ parameters, IsIdentifier p.name) :
    (method name parameters type body).IsLegal :=
  List.forall_mem_cons.mpr ⟨hn, List.forall_mem_map.mpr hp⟩

theorem isLegal_function (hn : IsIdentifier name) (hp : ∀ p ∈ parameters, IsIdentifier p.name) :
    (function name parameters type body).IsLegal :=
  List.forall_mem_cons.mpr ⟨hn, List.forall_mem_map.mpr hp⟩

end Member

end Legal

end Generated

open Generated

/-! ### Contract interfaces -/

namespace Ethereum

theorem forall_mem_of_forall₂ {α β : Type} {R : α → β → Prop} {P : β → Prop} {xs : List α}
    {ys : List β} (h : List.Forall₂ R xs ys) (hP : ∀ x ∈ xs, ∀ y, R x y → P y) :
    ∀ y ∈ ys, P y := by
  induction h with
  | nil => exact fun y hy => absurd hy List.not_mem_nil
  | cons hR _ ih =>
      obtain ⟨head, tail⟩ := List.forall_mem_cons.mp hP
      exact List.forall_mem_cons.mpr ⟨head _ hR, ih tail⟩

/-- What belongs to items has a property that it has under every identifier, if the items ask for
identifiers. -/
theorem Bound.forall_mem {α β : Type} {request : α → String} {Belongs : String → α → β → Prop}
    {P : β → Prop} {items : List α} {bindings : List β} (h : Bound request Belongs items bindings)
    (hr : ∀ item, IsIdentifier (request item))
    (hP : ∀ {name}, IsIdentifier name → ∀ item binding, Belongs name item binding → P binding) :
    ∀ binding ∈ bindings, P binding := by
  obtain ⟨named, names, -, each⟩ := h
  have requests : ∀ name ∈ items.map request, IsIdentifier name :=
    List.forall_mem_map.mpr fun item _ => hr item
  refine forall_mem_of_forall₂ each fun given hg binding hb => ?_
  refine hP (isIdentifier_of_mem_distinctNames requests given.1 ?_) given.2 binding hb
  rw [← names]
  exact List.mem_map_of_mem hg

theorem isIdentifier_placedName {word : String} (hw : IsIdentifier word) (placed : Param × Nat) :
    IsIdentifier (placedName word placed) :=
  isIdentifier_identifier _ (hw.append_repr placed.2)

theorem AreGetters.isLegal {word field list : String} {params : List Param}
    {getters : List Member} (h : AreGetters word field list params getters)
    (hw : IsIdentifier word) : ∀ m ∈ getters, m.IsLegal := by
  refine forall_mem_of_forall₂ h fun placed _ m hm => ?_
  obtain ⟨type, -, rfl⟩ := hm
  exact Member.isLegal_getter (isIdentifier_placedName hw placed)

theorem isLegal_holder {name owner field : String} {getters : List Member}
    (hn : IsIdentifier name) (hf : IsIdentifier field) (hu : IsIdentifier ("_" ++ field))
    (hg : ∀ m ∈ getters, m.IsLegal) : (holder name owner field getters).IsLegal := by
  refine ClassDecl.isLegal_mk hn (List.forall_mem_cons.mpr ⟨Member.isLegal_field hu, ?_⟩)
  refine List.forall_mem_cons.mpr ⟨Member.isLegal_maker ?_, hg⟩
  exact List.forall_mem_singleton.mpr hf

theorem IsEventBinding.isLegal {name : String} {e : Event} {classes : List ClassDecl}
    (h : IsEventBinding name e classes) (hn : IsIdentifier name) :
    ∀ c ∈ classes, c.IsLegal := by
  obtain ⟨getters, rfl, each⟩ := h
  have params : IsIdentifier (name ++ "__Params") :=
    hn.append (isWord_text rfl) (.inr (isMarked_text rfl))
  refine List.forall_mem_cons.mpr ⟨?_, List.forall_mem_singleton.mpr ?_⟩
  · refine ClassDecl.isLegal_mk hn (List.forall_mem_singleton.mpr ?_)
    exact Member.isLegal_getter (isIdentifier_text rfl)
  · refine isLegal_holder params (isIdentifier_text rfl) (isIdentifier_text rfl) ?_
    exact each.isLegal (isIdentifier_text rfl)

theorem IsCallBinding.isLegal {name : String} {inputs outputs : List Param}
    {classes : List ClassDecl} (h : IsCallBinding name inputs outputs classes)
    (hn : IsIdentifier name) : ∀ c ∈ classes, c.IsLegal := by
  obtain ⟨ins, outs, rfl, eachIn, eachOut⟩ := h
  have inputs : IsIdentifier (name ++ "__Inputs") :=
    hn.append (isWord_text rfl) (.inr (isMarked_text rfl))
  have outputs : IsIdentifier (name ++ "__Outputs") :=
    hn.append (isWord_text rfl) (.inr (isMarked_text rfl))
  have value : IsIdentifier "value" := isIdentifier_text rfl
  refine List.forall_mem_cons.mpr ⟨?_, List.forall_mem_cons.mpr ⟨?_,
    List.forall_mem_singleton.mpr ?_⟩⟩
  · refine ClassDecl.isLegal_mk hn (List.forall_mem_cons.mpr ⟨?_, ?_⟩)
    · exact Member.isLegal_getter (isIdentifier_text rfl)
    · exact List.forall_mem_singleton.mpr (Member.isLegal_getter (isIdentifier_text rfl))
  · exact isLegal_holder inputs (isIdentifier_text rfl) (isIdentifier_text rfl)
      (eachIn.isLegal value)
  · exact isLegal_holder outputs (isIdentifier_text rfl) (isIdentifier_text rfl)
      (eachOut.isLegal value)

theorem IsCaller.isLegal {name way : String} {f : Function} {m : Member}
    (h : IsCaller name way f m) (hn : IsIdentifier name) : m.IsLegal := by
  obtain ⟨passed, call, type, rest, each, -, rfl⟩ := h
  refine Member.isLegal_method hn (List.forall_mem_map.mpr ?_)
  refine forall_mem_of_forall₂ each fun placed _ given hg => ?_
  obtain ⟨type, -, parameter, -⟩ := hg
  rw [parameter]
  exact isIdentifier_placedName (isIdentifier_text rfl) placed

theorem IsMethodPair.isLegal {name : String} {f : Function} {pair : Member × Member}
    (h : IsMethodPair name f pair) (hn : IsIdentifier name) : pair.1.IsLegal ∧ pair.2.IsLegal := by
  have tries : IsIdentifier "try_" := isIdentifier_text rfl
  exact ⟨h.1.isLegal hn, h.2.isLegal (tries.append hn.isWord (.inl (isMarked_text rfl)))⟩

theorem isIdentifier_contractName (abiName : String) : IsIdentifier (contractName abiName) :=
  isIdentifier_identifier _ (isIdentifier_text rfl)

theorem IsContractBinding.isLegal {abiName : String} {abi : Abi} {c : ClassDecl}
    (h : IsContractBinding abiName abi c) : c.IsLegal := by
  obtain ⟨pairs, rfl, each⟩ := h
  have requests (f : Function) : IsIdentifier (methodName f) :=
    isIdentifier_identifier _ (isIdentifier_text rfl)
  have legal : ∀ pair ∈ pairs, pair.1.IsLegal ∧ pair.2.IsLegal :=
    each.forall_mem requests fun hn _ _ hp => hp.isLegal hn
  refine ClassDecl.isLegal_mk (isIdentifier_contractName abiName)
    (List.forall_mem_cons.mpr ⟨?_, fun m hm => ?_⟩)
  · exact Member.isLegal_function (isIdentifier_text rfl)
      (List.forall_mem_singleton.mpr (isIdentifier_text rfl))
  · obtain ⟨pair, hp, hm⟩ := List.mem_flatMap.mp hm
    rcases List.mem_pair.mp hm with rfl | rfl
    · exact (legal pair hp).1
    · exact (legal pair hp).2

/-- **The classes of a contract interface declare identifiers only.** -/
theorem isLegal_of_declares {abiName : String} {abi : Abi} {groups : List (List ClassDecl)}
    (h : Declares abiName abi groups) : ∀ classes ∈ groups, ∀ c ∈ classes, c.IsLegal := by
  obtain ⟨events, contract, creation, calls, rfl, he, hc, hk, hf⟩ := h
  have eventNames (e : Event) : IsIdentifier (eventName e) :=
    isIdentifier_identifier _ (isIdentifier_text rfl)
  have callNames (f : Function) : IsIdentifier (callName f) :=
    isIdentifier_identifier _ (isIdentifier_text rfl)
  refine List.forall_mem_append.mpr ⟨List.forall_mem_append.mpr
    ⟨List.forall_mem_append.mpr ⟨?_, ?_⟩, ?_⟩, ?_⟩
  · exact he.forall_mem eventNames fun hn _ _ h => h.isLegal hn
  · exact List.forall_mem_singleton.mpr (List.forall_mem_singleton.mpr hc.isLegal)
  · exact forall_mem_of_forall₂ hk fun _ _ _ h => h.isLegal (isIdentifier_text rfl)
  · refine hf.forall_mem callNames fun hn _ _ h => ?_
    exact h.isLegal (hn.append (isWord_text rfl) (.inr (isMarked_text rfl)))

end Ethereum

/-! ### Event definitions -/

namespace Cosmos

theorem isLegal_attributeGetters (keys : List String) :
    ∀ m ∈ attributeGetters keys, m.IsLegal :=
  forall_mem_zipWith_distinctNames
    (fun key => isIdentifier_identifier key (isIdentifier_text rfl))
    (fun hn _ => Member.isLegal_getter hn) keys

theorem isLegal_eventClass {name : String} (hn : IsIdentifier name) (e : EventDefinition) :
    (eventClass name e).IsLegal := by
  have event : ∀ p ∈ [Parameter.mk "event" eventType], IsIdentifier p.name :=
    List.forall_mem_singleton.mpr (isIdentifier_text rfl)
  refine ClassDecl.isLegal_mk hn
    (List.forall_mem_append.mpr ⟨?_, isLegal_attributeGetters e.attributes⟩)
  refine List.forall_mem_cons.mpr ⟨Member.isLegal_constant (isIdentifier_text rfl), ?_⟩
  refine List.forall_mem_cons.mpr ⟨Member.isLegal_field (isIdentifier_text rfl), ?_⟩
  refine List.forall_mem_cons.mpr ⟨Member.isLegal_maker event, ?_⟩
  exact List.forall_mem_singleton.mpr (Member.isLegal_function (isIdentifier_text rfl) event)

/-- **The classes of event definitions declare identifiers only.** -/
theorem isLegal_eventClasses (events : List EventDefinition) :
    ∀ c ∈ eventClasses events, c.IsLegal :=
  forall_mem_zipWith_distinctNames
    (fun _ => isIdentifier_identifier _ (isIdentifier_text rfl)) isLegal_eventClass events

/-- The heading of the function that looks an attribute up. -/
theorem head?_attributeLookup : attributeLookup.head? = some ("function " ++ "attribute"
    ++ Member.parameterText [⟨"event", eventType⟩, ⟨"key", "string"⟩] ++ ": string \x7b") := by
  decide

end Cosmos

/-! ### Templates -/

namespace TemplateStyle

theorem isLegal_makerFunction (style : TemplateStyle) {function : String}
    (hf : IsIdentifier function) (template : String) {others : List Parameter}
    (ho : ∀ p ∈ others, IsIdentifier p.name) :
    (style.makerFunction function template others).IsLegal :=
  have address : IsIdentifier "address" := isIdentifier_text rfl
  Member.isLegal_function hf (List.forall_mem_cons.mpr ⟨address, ho⟩)

/-- **The class of a template declares identifiers only.** -/
theorem isLegal_templateClass (style : TemplateStyle) (template : String) :
    (style.templateClass template).IsLegal := by
  refine ClassDecl.isLegal_mk (isIdentifier_identifier _ (isIdentifier_text rfl))
    (List.forall_mem_cons.mpr ⟨?_, List.forall_mem_singleton.mpr ?_⟩)
  · exact style.isLegal_makerFunction (isIdentifier_text rfl) template nofun
  · exact style.isLegal_makerFunction (isIdentifier_text rfl) template
      (List.forall_mem_singleton.mpr (isIdentifier_text rfl))

end TemplateStyle

/-! ### All that is generated -/

/-- **Every declared name is an identifier**: of classes, of their members and of the parameters of
these, whatever the names of the interface, of all that is in it, of attributes and of templates
are. -/
theorem declared_isLegal :
    (∀ abiName abi groups, Ethereum.declarations abiName abi = .ok groups →
      ∀ classes ∈ groups, ∀ c ∈ classes, c.IsLegal) ∧
    (∀ events, ∀ c ∈ Cosmos.eventClasses events, c.IsLegal) ∧
    (∃ name parameters type, Cosmos.attributeLookup.head?
        = some ("function " ++ name ++ Member.parameterText parameters ++ type) ∧
      IsIdentifier name ∧ ∀ p ∈ parameters, IsIdentifier p.name) ∧
    ∀ (style : TemplateStyle) template, (style.templateClass template).IsLegal := by
  refine ⟨fun abiName abi groups h => ?_, Cosmos.isLegal_eventClasses, ?_,
    TemplateStyle.isLegal_templateClass⟩
  · exact Ethereum.isLegal_of_declares ((Ethereum.uses_declarations abiName abi).of_ok h)
  · refine ⟨_, _, _, Cosmos.head?_attributeLookup, isIdentifier_text rfl, ?_⟩
    exact List.forall_mem_cons.mpr
      ⟨isIdentifier_text rfl, List.forall_mem_singleton.mpr (isIdentifier_text rfl)⟩

/-- An interface whose names are empty, reserved, overloaded, or begin with a digit. -/
def oddNamesAbi : Ethereum.Abi where
  constructor? := none
  functions := [
    ⟨"try", [.mk "1" "bool" []], [.mk "" "bool" []], .view⟩,
    ⟨"try", [.mk "class" "bool" []], [.mk "" "bool" []], .pure⟩]
  events := [⟨"", [.mk "" "bool" []]⟩]

theorem declared_isLegal_oddNamesAbi :
    ∃ groups, Ethereum.declarations "2 new" oddNamesAbi = .ok groups ∧
      groups.flatten.flatMap ClassDecl.identifiers
        = ["Event", "params", "Event__Params", "_event", "event", "param0", "_2New", "bind",
          "address", "_try", "_1", "try__try", "_1", "_try1", "_class", "try__try1", "_class"] ∧
      ∀ classes ∈ groups, ∀ c ∈ classes, c.IsLegal := by
  have names : (Ethereum.declarations "2 new" oddNamesAbi).toOption.map
      (fun groups => groups.flatten.flatMap ClassDecl.identifiers)
        = some ["Event", "params", "Event__Params", "_event", "event", "param0", "_2New", "bind",
          "address", "_try", "_1", "try__try", "_1", "_try1", "_class", "try__try1", "_class"] := by
    decide +kernel
  rcases h : Ethereum.declarations "2 new" oddNamesAbi with e | groups
  · rw [h] at names
    cases names
  · rw [h] at names
    exact ⟨groups, rfl, Option.some.inj names, declared_isLegal.1 _ _ groups h⟩

end Subgraph

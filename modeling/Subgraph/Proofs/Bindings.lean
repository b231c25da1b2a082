import Subgraph.Build
import Subgraph.Proofs.Declarations

/-!
# Bindings — the layout accepts what is generated

Names from manifests and interface files may hold quotes, brackets, slashes and line feeds.  In the
generated source they stand as identifiers or as literals only, so every generated declaration is
tidy, and its layout does not fail.

* `Gives`: what a computation of bindings gives, when it fails with unsupported types only.
* `gives_declarations`: the declarations of a contract interface are tidy.
* `isTidy_eventClasses`, `isTidy_templateClass`: so are the classes of event definitions and of
  templates.
* `layout_accepts`: the layout accepts all of them; a contract interface fails to have bindings
  over an unsupported type only, and event definitions never do.
-/

namespace Subgraph

open Layout Generated Text

/-! ### Classes -/

section Named

variable {α β : Type} {request : α → String}

/-- The names that are handed out for requests are words if the requests are. -/
theorem isWord_of_mem_zip (h : ∀ x, IsWord (request x)) (xs : List α) :
    ∀ named ∈ (distinctNames (xs.map request)).zip xs, IsWord named.1 := by
  intro named hn
  have words : ∀ name ∈ xs.map request, IsWord name := List.forall_mem_map.mpr fun x _ => h x
  exact isWord_of_mem_distinctNames words named.1 (List.of_mem_zip hn).1

theorem isTidy_of_mem_zip (h : ∀ x, IsWord (request x)) (xs : List α) :
    ∀ named ∈ (distinctNames (xs.map request)).zip xs, IsTidy named.1 :=
  fun named hn => isTidy_of_isWord (isWord_of_mem_zip h xs named hn)

/-- What is made of each item, under the name handed out to it, has a property that tidy names
give. -/
theorem forall_mem_named {f : String → α → β} {P : β → Prop} (h : ∀ x, IsWord (request x))
    (hf : ∀ {name}, IsTidy name → ∀ x, P (f name x)) (xs : List α) :
    ∀ y ∈ List.zipWith f (distinctNames (xs.map request)) xs, P y := by
  intro y hy
  rw [← List.map_uncurry_zip_eq_zipWith] at hy
  obtain ⟨named, hn, rfl⟩ := List.mem_map.mp hy
  exact hf (isTidy_of_mem_zip h xs named hn) named.2

end Named

/-- A class that extends another one. -/
theorem isTidy_extending {name base : String} {members : List Member} (hname : IsTidy name)
    (hbase : IsTidy base) (hm : ∀ m ∈ members, m.IsTidy) :
    ClassDecl.IsTidy ⟨name, some base, members⟩ := by
  refine ⟨hname, ?_, hm⟩
  rintro _ ⟨⟩
  exact hbase

/-! ### Contract interfaces -/

namespace Ethereum

/-- The computation gives a value with the property, or fails over an unsupported type. -/
def Gives {α : Type} (r : Except AbiError α) (P : α → Prop) : Prop :=
  match r with
  | .ok v => P v
  | .error e => ∃ type, e = .unsupportedType type

section Gives

variable {α β : Type} {P : α → Prop} {Q : β → Prop}

theorem Gives.bind {r : Except AbiError α} {f : α → Except AbiError β} (h : Gives r P)
    (hf : ∀ v, P v → Gives (f v) Q) : Gives (r >>= f) Q := by
  cases r with
  | ok v => exact hf v h
  | error e => exact h

theorem gives_mapM {f : β → Except AbiError α} (xs : List β) (hf : ∀ x, Gives (f x) P) :
    Gives (xs.mapM f) fun vs => ∀ v ∈ vs, P v := by
  induction xs with
  | nil => exact fun v hv => absurd hv List.not_mem_nil
  | cons x xs ih =>
      rw [List.mapM_cons]
      exact (hf x).bind fun v hv => ih.bind fun vs hvs => List.forall_mem_cons.mpr ⟨hv, hvs⟩

end Gives

/-- The words of a type as it appears in bindings are tidy. -/
structure ValueType.IsTidy (t : ValueType) : Prop where
  ascription : Layout.IsTidy t.ascription
  reader : Layout.IsTidy t.reader
  writer : Layout.IsTidy t.writer

theorem ValueType.isTidy_of_check {t : ValueType}
    (h : (isPlainTidy t.ascription && isPlainTidy t.reader && isPlainTidy t.writer) = true) :
    t.IsTidy := by
  rw [Bool.and_eq_true, Bool.and_eq_true] at h
  exact ⟨isTidy_text h.1.1, isTidy_text h.1.2, isTidy_text h.2⟩

theorem gives_valueType (type : String) : Gives (valueType type) ValueType.IsTidy := by
  unfold valueType
  rcases groups type.toList with ⟨n, name⟩
  dsimp only
  rcases Elementary.ofName? name with _ | element
  · exact ⟨type, rfl⟩
  · rcases n with _ | _ | n
    · cases element <;> exact ValueType.isTidy_of_check rfl
    · cases element <;> exact ValueType.isTidy_of_check rfl
    · exact ValueType.isTidy_of_check (t := undecodedArray) rfl

/-- The words of a slot are tidy. -/
structure Slot.IsTidy (s : Slot) : Prop where
  name : Layout.IsTidy s.name
  type : s.type.IsTidy

theorem gives_slots {word : String} (hw : IsWord word) (ps : List Param) :
    Gives (slots word ps) fun slots => ∀ s ∈ slots, s.IsTidy := by
  unfold slots
  generalize 0 = index
  induction ps generalizing index with
  | nil => exact fun s hs => absurd hs List.not_mem_nil
  | cons p ps ih =>
      refine (gives_valueType p.type).bind fun type ht => (ih (index + 1)).bind fun slots hs => ?_
      have name := isWord_identifier p.name (hw.append (isWord_repr index))
      exact List.forall_mem_cons.mpr ⟨⟨isTidy_of_isWord name, ht⟩, hs⟩

theorem isTidy_read {t : ValueType} (ht : t.IsTidy) {e : Expr} (he : IsTidy e.text) :
    IsTidy (t.read e).text := isTidy_send he ht.reader nofun

theorem isTidy_write {t : ValueType} (ht : t.IsTidy) {e : Expr} (he : IsTidy e.text) :
    IsTidy (t.write e).text := by
  refine isTidy_call (isTidy_member (isTidy_text rfl) ht.writer) ?_
  exact List.forall_mem_singleton.mpr he

theorem isTidy_getter {s : Slot} (hs : s.IsTidy) {list : Expr} (hl : IsTidy list.text) :
    (s.getter list).IsTidy := by
  refine ⟨hs.name, hs.type.ascription, List.forall_mem_singleton.mpr ?_⟩
  exact isTidy_read hs.type (isTidy_member (isTidy_element hl s.index) (isTidy_text rfl))

theorem isTidy_accessorClass {name owner field list : String} {slots : List Slot}
    (hname : IsTidy name) (howner : IsTidy owner) (hfield : IsTidy field) (hlist : IsTidy list)
    (hs : ∀ s ∈ slots, s.IsTidy) : (accessorClass name owner field list slots).IsTidy := by
  have under : IsTidy ("_" ++ field) := (isTidy_text rfl).append hfield
  have held : IsTidy (Expr.member (.word "this") ("_" ++ field)).text :=
    isTidy_member (isTidy_text rfl) under
  refine ⟨hname, nofun, List.forall_mem_append.mpr ⟨?_, fun m hm => ?_⟩⟩
  · refine List.forall_mem_cons.mpr ⟨⟨under, howner⟩, List.forall_mem_singleton.mpr ⟨?_, ?_⟩⟩
    · exact List.forall_mem_singleton.mpr ⟨hfield, howner⟩
    · exact List.forall_mem_singleton.mpr ⟨held, hfield⟩
  · obtain ⟨s, hmem, rfl⟩ := List.mem_map.mp hm
    exact isTidy_getter (hs s hmem) (isTidy_member held hlist)

theorem isTidy_wrapGetter {name wrapper : String} (hname : IsTidy name)
    (hwrapper : IsTidy wrapper) : (wrapGetter name wrapper).IsTidy := by
  refine ⟨hname, hwrapper, List.forall_mem_singleton.mpr ?_⟩
  exact isTidy_make hwrapper (List.forall_mem_singleton.mpr (isTidy_text rfl))

/-! #### Events -/

theorem isTidy_eventClasses {name : String} (hname : IsTidy name) {params : List Slot}
    (hp : ∀ s ∈ params, s.IsTidy) : ∀ c ∈ eventClasses name params, c.IsTidy := by
  have params : IsTidy (name ++ "__Params") := hname.append (isTidy_text rfl)
  refine List.forall_mem_cons.mpr
    ⟨isTidy_extending hname (isTidy_text rfl) ?_, List.forall_mem_singleton.mpr ?_⟩
  · exact List.forall_mem_singleton.mpr (isTidy_wrapGetter (isTidy_text rfl) params)
  · exact isTidy_accessorClass params hname (isTidy_text rfl) (isTidy_text rfl) hp

theorem gives_eventDeclarations {events : List (String × Event)}
    (h : ∀ e ∈ events, IsTidy e.1) :
    Gives (eventDeclarations events) fun groups => ∀ g ∈ groups, ∀ c ∈ g, c.IsTidy := by
  induction events with
  | nil => exact fun g hg => absurd hg List.not_mem_nil
  | cons e events ih =>
      obtain ⟨head, tail⟩ := List.forall_mem_cons.mp h
      refine (gives_slots (isWord_text rfl) e.2.inputs).bind fun params hp => ?_
      exact (ih tail).bind fun groups hg =>
        List.forall_mem_cons.mpr ⟨isTidy_eventClasses head hp, hg⟩

/-! #### The contract -/

theorem gives_soleOutput? (outputs : List Param) :
    Gives (soleOutput? outputs) fun sole? => ∀ t ∈ sole?, t.IsTidy := by
  refine (gives_mapM outputs fun p => gives_valueType p.type).bind fun types ht => ?_
  rcases types with _ | ⟨type, _ | ⟨type', types⟩⟩
  · exact nofun
  · rintro t ⟨⟩
    exact ht type List.mem_cons_self
  · exact nofun

theorem isTidy_unwrapped {sole? : Option ValueType} (h : ∀ t ∈ sole?, t.IsTidy) {values : Expr}
    (hv : IsTidy values.text) : IsTidy (unwrapped sole? values).text := by
  cases sole? with
  | none => exact hv
  | some type => exact isTidy_read (h type rfl) (isTidy_element hv 0)

theorem isTidy_resultType : ∀ sole? : Option ValueType, (∀ t ∈ sole?, t.IsTidy) →
    IsTidy (match sole? with
      | some type => type.ascription
      | none => "Array<ethereum.Value>")
  | none, _ => isTidy_text rfl
  | some type, h => (h type rfl).ascription

theorem gives_callMethods {name : String} (hname : IsTidy name) (f : Function) :
    Gives (callMethods name f) fun ms => ∀ m ∈ ms, m.IsTidy := by
  refine (gives_slots (isWord_text rfl) f.inputs).bind fun slots hs => ?_
  refine (gives_soleOutput? f.outputs).bind fun sole? hsole => ?_
  have parameters : ∀ p ∈ slots.map fun s => Parameter.mk s.name s.type.ascription,
      p.IsTidy := by
    intro p hp
    obtain ⟨s, hmem, rfl⟩ := List.mem_map.mp hp
    exact ⟨(hs s hmem).name, (hs s hmem).type.ascription⟩
  have values : ∀ e ∈ slots.map fun s => s.type.write (.word s.name), IsTidy e.text := by
    intro e he
    obtain ⟨s, hmem, rfl⟩ := List.mem_map.mp he
    exact isTidy_write (hs s hmem).type (hs s hmem).name
  have names : ∀ e ∈ [Expr.literal f.name, .literal f.signature], IsTidy e.text :=
    List.forall_mem_cons.mpr ⟨isTidy_quote _, List.forall_mem_singleton.mpr (isTidy_quote _)⟩
  have type := isTidy_resultType sole? hsole
  have called (method : String) (hm : IsTidy method) :
      IsTidy (Expr.member (.word "super") method).text :=
    isTidy_member (isTidy_text rfl) hm
  have result (field : String) (hf : IsTidy field) :
      IsTidy (Expr.member (.word "result") field).text :=
    isTidy_member (isTidy_text rfl) hf
  -- the method that fails with its call, and the one that says whether the call was reverted
  refine List.forall_mem_cons.mpr ⟨⟨hname, parameters, type, ?_⟩,
    List.forall_mem_singleton.mpr ⟨(isTidy_text rfl).append hname, parameters, ?_, ?_⟩⟩
  · refine List.forall_mem_cons.mpr ⟨⟨isTidy_text rfl,
      called "call" (isTidy_text rfl), names, values⟩, ?_⟩
    refine List.forall_mem_cons.mpr ⟨trivial, List.forall_mem_singleton.mpr ?_⟩
    exact isTidy_unwrapped hsole (isTidy_text rfl)
  · exact ((isTidy_text rfl).append type).append (isTidy_text rfl)
  · refine List.forall_mem_cons.mpr ⟨⟨isTidy_text rfl,
      called "tryCall" (isTidy_text rfl), names, values⟩, ?_⟩
    refine List.forall_mem_cons.mpr ⟨⟨result "reverted" (isTidy_text rfl),
      isTidy_make (isTidy_text rfl) nofun⟩, ?_⟩
    refine List.forall_mem_cons.mpr ⟨⟨isTidy_text rfl,
      result "value" (isTidy_text rfl)⟩, List.forall_mem_singleton.mpr ?_⟩
    refine isTidy_send (isTidy_text rfl) (isTidy_text rfl) ?_
    exact List.forall_mem_singleton.mpr (isTidy_unwrapped hsole (isTidy_text rfl))

theorem gives_contractMethods {functions : List (String × Function)}
    (h : ∀ f ∈ functions, IsTidy f.1) :
    Gives (contractMethods functions) fun ms => ∀ m ∈ ms, m.IsTidy := by
  induction functions with
  | nil => exact fun m hm => absurd hm List.not_mem_nil
  | cons f functions ih =>
      obtain ⟨head, tail⟩ := List.forall_mem_cons.mp h
      exact (gives_callMethods head f.2).bind fun methods hm => (ih tail).bind fun others ho =>
        List.forall_mem_append.mpr ⟨hm, ho⟩

theorem isTidy_contractName (abiName : String) : IsTidy (contractName abiName) :=
  isTidy_of_isWord (isWord_identifier _ (isWord_text rfl))

theorem isTidy_bindMethod (abiName : String) : (bindMethod abiName).IsTidy := by
  have name := isTidy_contractName abiName
  have address : Parameter.IsTidy ⟨"address", "Address"⟩ :=
    ⟨isTidy_text rfl, isTidy_text rfl⟩
  refine ⟨isTidy_text rfl, List.forall_mem_singleton.mpr address, name,
    List.forall_mem_singleton.mpr (isTidy_make name ?_)⟩
  exact List.forall_mem_cons.mpr ⟨isTidy_quote abiName,
    List.forall_mem_singleton.mpr (isTidy_text rfl)⟩

theorem gives_contractClass (abiName : String) (abi : Abi) :
    Gives (contractClass abiName abi) ClassDecl.IsTidy := by
  have words (f : Function) : IsWord (methodName f) := isWord_identifier f.name (isWord_text rfl)
  have names : ∀ f ∈ callable abi, IsTidy f.1 := isTidy_of_mem_zip words _
  refine (gives_contractMethods names).bind fun methods hm => ?_
  exact isTidy_extending (isTidy_contractName abiName) (isTidy_text rfl)
    (List.forall_mem_cons.mpr ⟨isTidy_bindMethod abiName, hm⟩)

/-! #### Calls -/

theorem gives_callClasses {name : String} (hname : IsTidy name) (inputs outputs : List Param) :
    Gives (callClasses name inputs outputs) fun cs => ∀ c ∈ cs, c.IsTidy := by
  have word : IsWord "value" := isWord_text rfl
  refine (gives_slots word inputs).bind fun ins hi => ?_
  refine (gives_slots word outputs).bind fun outs ho => ?_
  have inputsName : IsTidy (name ++ "__Inputs") := hname.append (isTidy_text rfl)
  have outputsName : IsTidy (name ++ "__Outputs") := hname.append (isTidy_text rfl)
  refine List.forall_mem_cons.mpr
    ⟨isTidy_extending hname (isTidy_text rfl) ?_,
      List.forall_mem_cons.mpr ⟨?_, List.forall_mem_singleton.mpr ?_⟩⟩
  · exact List.forall_mem_cons.mpr ⟨isTidy_wrapGetter (isTidy_text rfl) inputsName,
      List.forall_mem_singleton.mpr (isTidy_wrapGetter (isTidy_text rfl) outputsName)⟩
  · exact isTidy_accessorClass inputsName hname (isTidy_text rfl) (isTidy_text rfl) hi
  · exact isTidy_accessorClass outputsName hname (isTidy_text rfl) (isTidy_text rfl) ho

theorem gives_callDeclarations {functions : List (String × Function)}
    (h : ∀ f ∈ functions, IsTidy f.1) :
    Gives (callDeclarations functions) fun groups => ∀ g ∈ groups, ∀ c ∈ g, c.IsTidy := by
  induction functions with
  | nil => exact fun g hg => absurd hg List.not_mem_nil
  | cons f functions ih =>
      obtain ⟨head, tail⟩ := List.forall_mem_cons.mp h
      refine (gives_callClasses (head.append (isTidy_text rfl)) f.2.inputs
        f.2.outputs).bind fun classes hc => ?_
      exact (ih tail).bind fun groups hg => List.forall_mem_cons.mpr ⟨hc, hg⟩

theorem gives_creationDeclarations (abi : Abi) :
    Gives (creationDeclarations abi) fun groups => ∀ g ∈ groups, ∀ c ∈ g, c.IsTidy := by
  unfold creationDeclarations
  cases abi.constructor? with
  | none => exact fun g hg => absurd hg List.not_mem_nil
  | some inputs =>
      exact (gives_callClasses (isTidy_text rfl) inputs []).bind fun classes hc =>
        List.forall_mem_singleton.mpr hc

/-! #### The interface -/

/-- **The declarations of a contract interface are tidy**, whatever the names in it are. -/
theorem gives_declarations (abiName : String) (abi : Abi) :
    Gives (declarations abiName abi) fun groups => ∀ g ∈ groups, ∀ c ∈ g, c.IsTidy := by
  have eventWords (e : Event) : IsWord (eventName e) := isWord_identifier _ (isWord_text rfl)
  have callWords (f : Function) : IsWord (callName f) := isWord_identifier _ (isWord_text rfl)
  have events : ∀ e ∈ namedEvents abi, IsTidy e.1 := isTidy_of_mem_zip eventWords _
  have calls : ∀ f ∈ changing abi, IsTidy f.1 := isTidy_of_mem_zip callWords _
  refine (gives_eventDeclarations events).bind fun es he => ?_
  refine (gives_contractClass abiName abi).bind fun contract hc => ?_
  refine (gives_creationDeclarations abi).bind fun creation hk => ?_
  refine (gives_callDeclarations calls).bind fun cs hcs => ?_
  have contract : ∀ g ∈ [[contract]], ∀ c ∈ g, c.IsTidy :=
    List.forall_mem_singleton.mpr (List.forall_mem_singleton.mpr hc)
  refine List.forall_mem_append.mpr ⟨List.forall_mem_append.mpr ⟨?_, hk⟩, hcs⟩
  exact List.forall_mem_append.mpr ⟨he, contract⟩

end Ethereum

/-! ### Event definitions -/

namespace Cosmos

theorem isTidy_attributeGetter {name : String} (hname : IsTidy name) (key : String) :
    (attributeGetter name key).IsTidy := by
  have event : IsTidy (Expr.member (.word "this") "_event").text :=
    isTidy_member (isTidy_text rfl) (isTidy_text rfl)
  refine ⟨hname, isTidy_text rfl, List.forall_mem_singleton.mpr ?_⟩
  refine isTidy_call (isTidy_text rfl) ?_
  exact List.forall_mem_cons.mpr ⟨event, List.forall_mem_singleton.mpr (isTidy_quote key)⟩

theorem isTidy_attributeGetters (keys : List String) : ∀ m ∈ attributeGetters keys, m.IsTidy :=
  forall_mem_named (fun key => isWord_identifier key (isWord_text rfl)) isTidy_attributeGetter keys

/-- **The class of a definition is tidy**, whatever its type and its attributes are. -/
theorem isTidy_eventClass {name : String} (hname : IsTidy name) (e : EventDefinition) :
    (eventClass name e).IsTidy := by
  have type : IsTidy eventType := isTidy_text rfl
  have event : ∀ p ∈ [Parameter.mk "event" eventType], p.IsTidy :=
    List.forall_mem_singleton.mpr ⟨isTidy_text rfl, type⟩
  refine ⟨hname, nofun, List.forall_mem_append.mpr ⟨?_, isTidy_attributeGetters e.attributes⟩⟩
  refine List.forall_mem_cons.mpr ⟨⟨isTidy_text rfl, isTidy_text rfl, isTidy_quote e.type⟩, ?_⟩
  refine List.forall_mem_cons.mpr ⟨⟨isTidy_text rfl, type⟩, ?_⟩
  refine List.forall_mem_cons.mpr ⟨⟨event, List.forall_mem_singleton.mpr ⟨?_, ?_⟩⟩,
    List.forall_mem_singleton.mpr ⟨isTidy_text rfl, event, isTidy_text rfl,
      List.forall_mem_singleton.mpr ?_⟩⟩
  · exact isTidy_member (isTidy_text rfl) (isTidy_text rfl)
  · exact isTidy_text rfl
  · exact isTidy_equals (isTidy_member (isTidy_text rfl) (isTidy_text rfl))
      (isTidy_member hname (isTidy_text rfl))

theorem isTidy_eventClasses (events : List EventDefinition) :
    ∀ c ∈ eventClasses events, c.IsTidy :=
  forall_mem_named (fun _ => isWord_identifier _ (isWord_text rfl)) isTidy_eventClass events

theorem isTidyText_attributeLookup : IsTidyText (String.intercalate "\n" attributeLookup) := by
  unfold IsTidyText
  rw [textBrackets_lines]
  rfl

end Cosmos

/-! ### Templates -/

namespace TemplateStyle

/-- The words of a style are tidy. -/
structure IsTidy (style : TemplateStyle) : Prop where
  addressType : Layout.IsTidy style.addressType
  passed : Layout.IsTidy style.passed.text
  imports : ∀ name ∈ style.imports, Layout.IsTidy name

theorem isTidy_makerFunction {style : TemplateStyle} (h : style.IsTidy) {function : String}
    (hf : Layout.IsTidy function) (template : String) {others : List Parameter}
    (ho : ∀ p ∈ others, p.IsTidy) : (style.makerFunction function template others).IsTidy := by
  have address : Parameter.IsTidy ⟨"address", style.addressType⟩ :=
    ⟨(isTidy_text rfl : Layout.IsTidy "address"), h.addressType⟩
  refine ⟨hf, List.forall_mem_cons.mpr ⟨address, ho⟩, isTidy_text rfl,
    List.forall_mem_singleton.mpr ?_⟩
  refine isTidy_send (isTidy_text rfl) hf ?_
  refine List.forall_mem_cons.mpr ⟨isTidy_quote template, List.forall_mem_cons.mpr ⟨?_, ?_⟩⟩
  · exact isTidy_list (List.forall_mem_singleton.mpr h.passed)
  · intro e he
    obtain ⟨p, hp, rfl⟩ := List.mem_map.mp he
    exact (ho p hp).name

/-- **The class of a template is tidy**, whatever its name is. -/
theorem isTidy_templateClass {style : TemplateStyle} (h : style.IsTidy) (template : String) :
    (style.templateClass template).IsTidy := by
  have context : Parameter.IsTidy ⟨"context", "DataSourceContext"⟩ :=
    ⟨isTidy_text rfl, isTidy_text rfl⟩
  have name : Layout.IsTidy (className template) :=
    isTidy_of_isWord (isWord_identifier _ (isWord_text rfl))
  refine isTidy_extending name (isTidy_text rfl) ?_
  refine List.forall_mem_cons.mpr ⟨?_, List.forall_mem_singleton.mpr ?_⟩
  · exact isTidy_makerFunction h (isTidy_text rfl) template nofun
  · exact isTidy_makerFunction h (isTidy_text rfl) template
      (List.forall_mem_singleton.mpr context)

theorem isTidy_of_templateStyle {f : Family} {style : TemplateStyle}
    (h : f.templateStyle = .present style) : style.IsTidy := by
  cases f with
  | ethereum =>
      cases h
      exact ⟨isTidy_text rfl, isTidy_send (isTidy_text rfl) (isTidy_text rfl) nofun,
        isTidy_texts rfl⟩
  | tendermint =>
      cases h
      exact ⟨isTidy_text rfl, isTidy_text rfl, isTidy_texts rfl⟩
  | near => cases h

end TemplateStyle

namespace Build

theorem templateParts_of_style {f : Family} {style : TemplateStyle}
    (h : f.templateStyle = .present style) (template : Entry) : templateParts f template =
      .ok (style.importLines, declarationText [style.templateClass template.name]) := by
  unfold templateParts Family.requireTemplateStyle
  rw [h]
  rfl

/-- The file with the classes of some templates: the imports of each, then its class. -/
theorem templatesText_of_style {f : Family} {style : TemplateStyle}
    (h : f.templateStyle = .present style) (templates : List Entry) :
    templatesText f templates = moduleText (templates.flatMap fun _ => style.importLines).eraseDups
      (templates.map fun template => declarationText [style.templateClass template.name]) := by
  have parts : templates.mapM (templateParts f) = .ok (templates.map fun template =>
      (style.importLines, declarationText [style.templateClass template.name])) := by
    rw [funext (templateParts_of_style h)]
    exact List.mapM_pure
  unfold templatesText
  rw [parts]
  change moduleText (List.flatMap Prod.fst (List.map _ _)).eraseDups (List.map Prod.snd _) = _
  rw [List.flatMap_map, List.map_map]
  rfl

/-- **A family with classes for templates has a file of them**, whatever the templates are. -/
theorem exists_templatesText {f : Family} {style : TemplateStyle}
    (h : f.templateStyle = .present style) (templates : List Entry) :
    ∃ text, templatesText f templates = .ok text := by
  have tidy := TemplateStyle.isTidy_of_templateStyle h
  rw [templatesText_of_style h]
  refine exists_moduleText (fun line hl => ?_) fun text ht => ?_
  · obtain ⟨template, -, hl⟩ := List.mem_flatMap.mp (List.mem_eraseDups.mp hl)
    obtain rfl := List.mem_singleton.mp hl
    exact isTidyText_importLine tidy.imports
  · obtain ⟨template, -, rfl⟩ := List.mem_map.mp ht
    exact isTidyText_declarationText (List.forall_mem_singleton.mpr
      (TemplateStyle.isTidy_templateClass tidy template.name))

end Build

/-! ### Interfaces -/

namespace Interface

theorem exists_format_ofContract {name : String} {file : Path} {abi : Ethereum.Abi}
    {declarations : List String} (h : (ofContract name file abi).declarations = .ok declarations) :
    ∃ text, Layout.format (looseText (ofContract name file abi).imports declarations) =
      .ok text := by
  have gives := Ethereum.gives_declarations name abi
  unfold ofContract at h
  rcases hd : Ethereum.declarations name abi with e | groups
  · rw [hd] at h
    cases h
  · rw [hd] at h gives
    cases h
    refine exists_format (List.forall_mem_singleton.mpr ?_) fun text ht => ?_
    · exact isTidyText_importLine (isTidy_texts rfl)
    · obtain ⟨group, hg, rfl⟩ := List.mem_map.mp ht
      exact isTidyText_declarationText (gives group hg)

theorem exists_format_ofDefinitions {name : String} {file : Path}
    {events : List Cosmos.EventDefinition} {declarations : List String}
    (h : (ofDefinitions name file events).declarations = .ok declarations) :
    ∃ text, Layout.format (looseText (ofDefinitions name file events).imports declarations) =
      .ok text := by
  cases h
  refine exists_format (List.forall_mem_singleton.mpr ?_) (List.forall_mem_cons.mpr ⟨?_, ?_⟩)
  · exact isTidyText_importLine (isTidy_texts rfl)
  · exact Cosmos.isTidyText_attributeLookup
  · intro text ht
    obtain ⟨c, hc, rfl⟩ := List.mem_map.mp ht
    exact isTidyText_declarationText
      (List.forall_mem_singleton.mpr (Cosmos.isTidy_eventClasses events c hc))

/-- An interface whose declarations the layout accepts has bindings. -/
theorem exists_bindings {i : Interface} {declarations : List String}
    (h : i.declarations = .ok declarations)
    (accepted : ∃ text, Layout.format (looseText i.imports declarations) = .ok text) :
    ∃ text, i.bindings = .ok text := by
  obtain ⟨text, accepted⟩ := accepted
  refine ⟨text, ?_⟩
  unfold bindings
  rw [h]
  change moduleText i.imports declarations = .ok text
  rw [moduleText, accepted]
  rfl

/-- A contract interface has no bindings over an unsupported type only. -/
theorem unsupported_of_bindings {name : String} {file : Path} {abi : Ethereum.Abi} {e : Error}
    (h : (ofContract name file abi).bindings = .error e) :
    ∃ type, e = .abi (.unsupportedType type) := by
  have gives := Ethereum.gives_declarations name abi
  rcases hd : (ofContract name file abi).declarations with cause | declarations
  · unfold bindings at h
    rw [hd] at h
    cases h
    unfold ofContract at hd
    rcases hg : Ethereum.declarations name abi with cause' | groups
    · rw [hg] at hd gives
      cases hd
      obtain ⟨type, rfl⟩ := gives
      exact ⟨type, rfl⟩
    · rw [hg] at hd
      cases hd
  · obtain ⟨text, ht⟩ := exists_bindings hd (exists_format_ofContract hd)
    rw [ht] at h
    cases h

/-- **The layout accepts whatever is generated.**

A contract interface that has declarations, a list of event definitions and a list of templates
make a source that can be laid out, whatever names stand in them.  So a contract interface fails to
have bindings over an unsupported type only, and event definitions always have them. -/
theorem layout_accepts :
    (∀ name file abi declarations, (ofContract name file abi).declarations = .ok declarations →
      ∃ text, Layout.format (looseText (ofContract name file abi).imports declarations) =
        .ok text) ∧
    (∀ name file events declarations,
      (ofDefinitions name file events).declarations = .ok declarations →
        ∃ text, Layout.format (looseText (ofDefinitions name file events).imports declarations) =
          .ok text) ∧
    (∀ templates, (∃ text, Build.templatesText .ethereum templates = .ok text) ∧
      ∃ text, Build.templatesText .tendermint templates = .ok text) ∧
    (∀ name file abi e, (ofContract name file abi).bindings = .error e →
      ∃ type, e = .abi (.unsupportedType type)) ∧
    ∀ name file events, ∃ text, (ofDefinitions name file events).bindings = .ok text := by
  refine ⟨fun _ _ _ _ => exists_format_ofContract, fun _ _ _ _ => exists_format_ofDefinitions,
    fun templates => ⟨?_, ?_⟩, fun _ _ _ _ => unsupported_of_bindings, fun name file events => ?_⟩
  · exact Build.exists_templatesText (f := .ethereum) rfl templates
  · exact Build.exists_templatesText (f := .tendermint) rfl templates
  · exact exists_bindings rfl (exists_format_ofDefinitions (rfl : (ofDefinitions name file
      events).declarations = _))

/-- A name with a quote, brackets, slashes and a line feed in it. -/
def oddName : String := "\"](//\n["

/-- The interface that names all things oddly, with one event whose parameter has this type. -/
def oddInterface (type : String) : Interface :=
  ofContract oddName ⟨oddName⟩ ⟨none, [], [⟨oddName, [.mk oddName type []]⟩]⟩

theorem layout_accepts_oddInterface :
    (∃ declarations text,
      (oddInterface "uint8[]").declarations = .ok declarations ∧
      Layout.format (looseText (oddInterface "uint8[]").imports declarations) = .ok text) ∧
    ∃ type, (oddInterface "fixed").bindings = .error (.abi (.unsupportedType type)) := by
  have declared : (oddInterface "uint8[]").declarations.toBool = true := by decide +kernel
  have failed : (oddInterface "fixed").bindings.toBool = false := by decide +kernel
  refine ⟨?_, ?_⟩
  · rcases hd : (oddInterface "uint8[]").declarations with e | declarations
    · rw [hd] at declared
      cases declared
    · obtain ⟨text, ht⟩ := layout_accepts.1 _ _ _ _ hd
      exact ⟨declarations, text, rfl, ht⟩
  · rcases hb : (oddInterface "fixed").bindings with e | text
    · obtain ⟨type, rfl⟩ := layout_accepts.2.2.2.1 _ _ _ _ hb
      exact ⟨type, rfl⟩
    · rw [hb] at failed
      cases failed

end Interface

end Subgraph

import Mathlib.Data.List.Forall2
import Subgraph.Interface

/-!
# Completeness — bindings leave nothing of an interface out

The bindings of a contract interface have a declaration for each event, one for the contract, one
for the constructor if there is one, and one for each function that changes the contract, in this
order.  Each getter, each parameter and each argument in them belongs to one parameter of the
interface, in its place; a function that can be called for its result has two methods.

* `Uses`: a computation fails over the first unsupported type among those it uses, and otherwise
  gives a value with a property.
* `Bound`: each item has what belongs to it, in order, under the name handed out to it.
* `IsEventBinding`, `IsMethodPair`, `IsCallBinding`: what belongs to an event, to a function that
  can be called for its result, and to one that changes the contract.
* `uses_declarations`: the declarations use the types that the interface puts in them, and are
  those of the interface (`Declares`).
-/

namespace Subgraph.Ethereum

open Generated Text

/-! ### The types in use -/

/-- Values of the type can appear in bindings. -/
def isSupported (type : String) : Bool := (valueType type).toBool

/-- The types of parameters. -/
def paramTypes (params : List Param) : List String := params.map Param.type

/-- The types of the inputs and the outputs of functions. -/
def functionTypes (functions : List Function) : List String :=
  functions.flatMap fun f => paramTypes f.inputs ++ paramTypes f.outputs

/-- The types that appear in the bindings of an interface, in the order of the bindings: those of
its events, of the functions that can be called for their results, of the constructor, and of the
functions that change the contract. -/
def usedTypes (abi : Abi) : List String :=
  (abi.events.flatMap fun e => paramTypes e.inputs)
    ++ functionTypes (abi.functions.filter Function.isCallable)
    ++ abi.constructor?.toList.flatMap paramTypes
    ++ functionTypes (abi.functions.filter fun f => !f.isReadOnly)

/-- The computation fails over the first of the types that is not supported, and gives a value
with the property if there is none. -/
def Uses {α : Type} (types : List String) (r : Except AbiError α) (P : α → Prop) : Prop :=
  match types.find? (!isSupported ·) with
  | some type => r = .error (.unsupportedType type)
  | none => ∃ v, r = .ok v ∧ P v

section Uses

variable {α β : Type} {types types' : List String} {r : Except AbiError α} {P : α → Prop}
  {Q : β → Prop}

theorem uses_of_find?_eq_some {type : String} (h : types.find? (!isSupported ·) = some type) :
    Uses types r P ↔ r = .error (.unsupportedType type) := by
  rw [Uses, h]

theorem uses_of_find?_eq_none (h : types.find? (!isSupported ·) = none) :
    Uses types r P ↔ ∃ v, r = .ok v ∧ P v := by
  rw [Uses, h]

theorem Uses.pure {v : α} (h : P v) : Uses [] (.ok v) P := ⟨v, rfl, h⟩

/-- Two computations one after the other use the types of both. -/
theorem Uses.bind {f : α → Except AbiError β} (h : Uses types r P)
    (hf : ∀ v, P v → Uses types' (f v) Q) : Uses (types ++ types') (r >>= f) Q := by
  cases hfind : types.find? (!isSupported ·) with
  | some type =>
      have found : (types ++ types').find? (!isSupported ·) = some type := by
        rw [List.find?_append, hfind, Option.some_or]
      rw [uses_of_find?_eq_some found, (uses_of_find?_eq_some hfind).mp h]
      rfl
  | none =>
      obtain ⟨v, rfl, hv⟩ := (uses_of_find?_eq_none hfind).mp h
      have := hf v hv
      rwa [Uses, List.find?_append, hfind, Option.none_or]

/-- What is made of the value uses no type. -/
theorem Uses.map {f : α → Except AbiError β} (h : Uses types r P)
    (hf : ∀ v, P v → ∃ w, f v = .ok w ∧ Q w) : Uses types (r >>= f) Q := by
  rw [← List.append_nil types]
  exact h.bind fun v hv => hf v hv

/-- The computation fails exactly if one of its types is not supported, and with the first of
those. -/
theorem Uses.eq_error_iff (h : Uses types r P) {e : AbiError} :
    r = .error e ↔
      ∃ type, types.find? (!isSupported ·) = some type ∧ e = .unsupportedType type := by
  cases hfind : types.find? (!isSupported ·) with
  | some type =>
      rw [(uses_of_find?_eq_some hfind).mp h]
      simp [eq_comm]
  | none =>
      obtain ⟨v, rfl, -⟩ := (uses_of_find?_eq_none hfind).mp h
      simp

theorem Uses.mono {Q : α → Prop} (h : Uses types r P) (hQ : ∀ v, P v → Q v) : Uses types r Q := by
  cases hfind : types.find? (!isSupported ·) with
  | some type => exact (uses_of_find?_eq_some hfind).mpr ((uses_of_find?_eq_some hfind).mp h)
  | none =>
      obtain ⟨v, rfl, hv⟩ := (uses_of_find?_eq_none hfind).mp h
      exact (uses_of_find?_eq_none hfind).mpr ⟨v, rfl, hQ v hv⟩

theorem Uses.of_ok {v : α} (h : Uses types r P) (hr : r = .ok v) : P v := by
  cases hfind : types.find? (!isSupported ·) with
  | some type =>
      rw [(uses_of_find?_eq_some hfind).mp h] at hr
      cases hr
  | none =>
      obtain ⟨w, rfl, hw⟩ := (uses_of_find?_eq_none hfind).mp h
      cases hr
      exact hw

end Uses

/-- A type that is not supported is what its failure names. -/
theorem eq_unsupportedType {type : String} {e : AbiError} (h : valueType type = .error e) :
    e = .unsupportedType type := by
  simp only [valueType] at h
  split at h
  · cases h
    rfl
  · cases h

theorem uses_valueType (type : String) :
    Uses [type] (valueType type) fun t => valueType type = .ok t := by
  cases h : valueType type with
  | ok t =>
      refine (uses_of_find?_eq_none ?_).mpr ⟨t, rfl, rfl⟩
      simp [isSupported, h, Except.toBool]
  | error e =>
      have unsupported : [type].find? (!isSupported ·) = some type := by
        simp [isSupported, h, Except.toBool]
      rw [uses_of_find?_eq_some unsupported, eq_unsupportedType h]

/-! ### Values by position -/

/-- The name of a parameter in its place. -/
def placedName (word : String) (placed : Param × Nat) : String :=
  identifier placed.1.name (word ++ toString placed.2)

/-- The slot is that of the parameter in its place. -/
structure IsSlot (word : String) (placed : Param × Nat) (s : Slot) : Prop where
  name : s.name = placedName word placed
  index : s.index = placed.2
  type : valueType placed.1.type = .ok s.type

theorem uses_slotsFrom (word : String) (params : List Param) (index : Nat) :
    Uses (paramTypes params) (slotsFrom word index params)
      (List.Forall₂ (IsSlot word) (params.zipIdx index)) := by
  induction params generalizing index with
  | nil => exact .pure .nil
  | cons p ps ih =>
      change Uses ([p.type] ++ paramTypes ps) _ _
      refine (uses_valueType p.type).bind fun type ht => ?_
      exact (ih (index + 1)).map fun slots hs => ⟨_, rfl, .cons ⟨rfl, rfl, ht⟩ hs⟩

theorem uses_slots (word : String) (params : List Param) :
    Uses (paramTypes params) (slots word params)
      (List.Forall₂ (IsSlot word) params.zipIdx) :=
  uses_slotsFrom word params 0

/-- The getter reads the value in the place of the parameter, as the type of the parameter has
it. -/
def IsGetter (word : String) (list : Expr) (placed : Param × Nat) (m : Member) : Prop :=
  ∃ type, valueType placed.1.type = .ok type ∧
    m = .getter (placedName word placed) type.ascription
      [.give (type.read (.member (.element list placed.2) "value"))]

theorem IsSlot.isGetter {word : String} {placed : Param × Nat} {s : Slot}
    (h : IsSlot word placed s) (list : Expr) : IsGetter word list placed (s.getter list) := by
  refine ⟨s.type, h.type, ?_⟩
  rw [Slot.getter, h.name, h.index]

/-- A class that holds an object in a field, with these getters and no others. -/
def holder (name owner field : String) (getters : List Member) : ClassDecl where
  name := name
  base? := none
  members := .field ("_" ++ field) owner
    :: .maker [⟨field, owner⟩] [.assign (.member (.word "this") ("_" ++ field)) (.word field)]
    :: getters

/-- The getters are those of parameters, one for each, in order: they read a list of the object in
a field. -/
def AreGetters (word field list : String) (params : List Param) (getters : List Member) : Prop :=
  List.Forall₂ (IsGetter word (.member (.member (.word "this") ("_" ++ field)) list))
    params.zipIdx getters

theorem accessorClass_eq_holder {word field list : String} {params : List Param}
    {slots : List Slot} (h : List.Forall₂ (IsSlot word) params.zipIdx slots)
    (name owner : String) :
    ∃ getters, accessorClass name owner field list slots = holder name owner field getters ∧
      AreGetters word field list params getters :=
  ⟨_, rfl, List.forall₂_map_right_iff.mpr (h.imp fun _ _ hs => hs.isGetter _)⟩

/-! ### Items and what belongs to them -/

/-- Each item has what belongs to it, in order and with nothing else between, under the name handed
out for its request. -/
def Bound {α β : Type} (request : α → String) (Belongs : String → α → β → Prop) (items : List α)
    (bindings : List β) : Prop :=
  ∃ named : List (String × α),
    named.map Prod.fst = distinctNames (items.map request) ∧
    named.map Prod.snd = items ∧
    List.Forall₂ (fun given binding => Belongs given.1 given.2 binding) named bindings

section Bound

variable {α β : Type} {request : α → String} {items : List α}

theorem map_snd_zip_distinctNames :
    ((distinctNames (items.map request)).zip items).map Prod.snd = items :=
  List.map_snd_zip (by simp)

theorem bound_of_zip {Belongs : String → α → β → Prop} {bindings : List β}
    (h : List.Forall₂ (fun given binding => Belongs given.1 given.2 binding)
      ((distinctNames (items.map request)).zip items) bindings) :
    Bound request Belongs items bindings :=
  ⟨_, List.map_fst_zip (by simp), map_snd_zip_distinctNames, h⟩

end Bound

/-! ### Events -/

/-- The classes are those of an event under a name: its own, and that of its parameters. -/
def IsEventBinding (name : String) (e : Event) (classes : List ClassDecl) : Prop :=
  ∃ getters, classes = [⟨name, some "ethereum.Event", [wrapGetter "params" (name ++ "__Params")]⟩,
      holder (name ++ "__Params") name "event" getters] ∧
    AreGetters "param" "event" "parameters" e.inputs getters

theorem isEventBinding_eventClasses {e : Event} {slots : List Slot}
    (h : List.Forall₂ (IsSlot "param") e.inputs.zipIdx slots) (name : String) :
    IsEventBinding name e (eventClasses name slots) := by
  obtain ⟨getters, eq, each⟩ := accessorClass_eq_holder h (name ++ "__Params") name
  exact ⟨getters, by rw [eventClasses, eq], each⟩

theorem uses_eventDeclarations (named : List (String × Event)) :
    Uses ((named.map Prod.snd).flatMap fun e => paramTypes e.inputs) (eventDeclarations named)
      (List.Forall₂ (fun given classes => IsEventBinding given.1 given.2 classes) named) := by
  induction named with
  | nil => exact .pure .nil
  | cons given rest ih =>
      refine (uses_slots "param" given.2.inputs).bind fun params hp => ?_
      exact ih.map fun groups hg => ⟨_, rfl, .cons (isEventBinding_eventClasses hp _) hg⟩

/-! ### The contract -/

/-- A parameter of a method and the argument made of it stand for the parameter of a function in
its place. -/
def IsPassed (placed : Param × Nat) (passed : Parameter × Expr) : Prop :=
  ∃ type, valueType placed.1.type = .ok type ∧
    passed.1 = ⟨placedName "param" placed, type.ascription⟩ ∧
    passed.2 = type.write (.word passed.1.name)

/-- The statement calls the function, in one of the ways that there are, under the name and the
signature that its literals decode to. -/
def IsCallOf (f : Function) (way : String) (arguments : List Expr) (s : Statement) : Prop :=
  ∃ name signature, s = .declareCall "result" (.member (.word "super") way) [name, signature]
      arguments ∧
    readQuoted name.text.toList = some (f.name.toList, []) ∧
    readQuoted signature.text.toList = some (f.signature.toList, [])

/-- The method calls the function in this way, with an argument for each of its inputs, in order and
no others. -/
def IsCaller (name way : String) (f : Function) (m : Member) : Prop :=
  ∃ passed call type rest, List.Forall₂ IsPassed f.inputs.zipIdx passed ∧
    IsCallOf f way (passed.map Prod.snd) call ∧
    m = .method name (passed.map Prod.fst) type (call :: rest)

/-- The methods are those of a function under a name: one that calls it, and one that gives a failed
call as a value. -/
def IsMethodPair (name : String) (f : Function) (pair : Member × Member) : Prop :=
  IsCaller name "call" f pair.1 ∧ IsCaller ("try_" ++ name) "tryCall" f pair.2

/-- The class is that of a contract: behind what makes its objects stand the pairs of methods. -/
def IsContractBinding (abiName : String) (abi : Abi) (c : ClassDecl) : Prop :=
  ∃ pairs, c = ⟨contractName abiName, some "ethereum.SmartContract",
      bindMethod abiName :: pairs.flatMap fun pair => [pair.1, pair.2]⟩ ∧
    Bound methodName IsMethodPair (abi.functions.filter Function.isCallable) pairs

/-- A literal decodes to what it was made of. -/
theorem readQuoted_literal (value : String) :
    readQuoted (Expr.literal value).text.toList = some (value.toList, []) := by
  rw [Expr.text, quote, String.toList_ofList, ← List.append_nil (quoteChars _)]
  exact readQuoted_quoteChars value.toList []

theorem isCallOf_declareCall (f : Function) (way : String) (arguments : List Expr) :
    IsCallOf f way arguments (.declareCall "result" (.member (.word "super") way)
      [.literal f.name, .literal f.signature] arguments) :=
  ⟨_, _, rfl, readQuoted_literal f.name, readQuoted_literal f.signature⟩

/-- The slots of the inputs of a function give the parameters and the arguments of its methods. -/
theorem isCaller_of_slots {f : Function} {slots : List Slot}
    (h : List.Forall₂ (IsSlot "param") f.inputs.zipIdx slots) (name way type : String)
    (rest : List Statement) :
    IsCaller name way f (.method name (slots.map fun s => ⟨s.name, s.type.ascription⟩) type
      (.declareCall "result" (.member (.word "super") way) [.literal f.name, .literal f.signature]
        (slots.map fun s => s.type.write (.word s.name)) :: rest)) := by
  let passed (s : Slot) : Parameter × Expr :=
    (⟨s.name, s.type.ascription⟩, s.type.write (.word s.name))
  have each : List.Forall₂ IsPassed f.inputs.zipIdx (slots.map passed) := by
    refine List.forall₂_map_right_iff.mpr (h.imp fun placed s hs => ?_)
    exact ⟨s.type, hs.type, by rw [← hs.name], rfl⟩
  have values : (slots.map passed).map Prod.snd = slots.map fun s => s.type.write (.word s.name) :=
    List.map_map
  have parameters : (slots.map passed).map Prod.fst
      = slots.map fun s => ⟨s.name, s.type.ascription⟩ := List.map_map
  refine ⟨slots.map passed, _, type, rest, each, isCallOf_declareCall f way _, ?_⟩
  rw [values, parameters]

/-- A computation for each item uses the types of all. -/
theorem uses_mapM {α β : Type} {f : β → Except AbiError α} {type : β → String}
    (h : ∀ x, Uses [type x] (f x) fun _ => True) (xs : List β) :
    Uses (xs.map type) (xs.mapM f) fun _ => True := by
  induction xs with
  | nil => exact .pure trivial
  | cons x xs ih =>
      rw [List.mapM_cons]
      exact (h x).bind fun v _ => ih.map fun vs _ => ⟨_, rfl, trivial⟩

theorem uses_soleOutput? (outputs : List Param) :
    Uses (paramTypes outputs) (soleOutput? outputs) fun _ => True := by
  have each (p : Param) : Uses [p.type] (valueType p.type) fun _ => True :=
    (uses_valueType p.type).mono fun _ _ => trivial
  refine (uses_mapM each outputs).map fun types _ => ?_
  split <;> exact ⟨_, rfl, trivial⟩

theorem uses_callMethods (name : String) (f : Function) :
    Uses (paramTypes f.inputs ++ paramTypes f.outputs) (callMethods name f) fun members =>
      ∃ pair, members = [pair.1, pair.2] ∧ IsMethodPair name f pair := by
  refine (uses_slots "param" f.inputs).bind fun slots hs => ?_
  refine (uses_soleOutput? f.outputs).map fun sole? _ => ⟨_, rfl, (_, _), rfl, ?_⟩
  exact ⟨isCaller_of_slots hs name "call" _ _, isCaller_of_slots hs ("try_" ++ name) "tryCall" _ _⟩

/-- The methods of functions are pairs, one for each, with what holds of the pair of any one. -/
theorem uses_contractMethods {Belongs : String → Function → Member × Member → Prop}
    (each : ∀ name f, Uses (paramTypes f.inputs ++ paramTypes f.outputs) (callMethods name f)
      fun members => ∃ pair, members = [pair.1, pair.2] ∧ Belongs name f pair)
    (named : List (String × Function)) :
    Uses (functionTypes (named.map Prod.snd)) (contractMethods named) fun members =>
      ∃ pairs : List (Member × Member), members = (pairs.flatMap fun pair => [pair.1, pair.2]) ∧
        List.Forall₂ (fun given pair => Belongs given.1 given.2 pair) named pairs := by
  induction named with
  | nil => exact .pure ⟨[], rfl, .nil⟩
  | cons given rest ih =>
      refine (each given.1 given.2).bind fun methods hm => ?_
      obtain ⟨pair, rfl, hp⟩ := hm
      refine ih.map fun others ho => ?_
      obtain ⟨pairs, rfl, hps⟩ := ho
      exact ⟨_, rfl, pair :: pairs, rfl, .cons hp hps⟩

/-! ### Calls -/

/-- The classes are those of calls under a name: their own, and those of the inputs and of the
outputs of a call. -/
def IsCallBinding (name : String) (inputs outputs : List Param) (classes : List ClassDecl) :
    Prop :=
  ∃ ins outs, classes = [
      ⟨name, some "ethereum.Call",
        [wrapGetter "inputs" (name ++ "__Inputs"), wrapGetter "outputs" (name ++ "__Outputs")]⟩,
      holder (name ++ "__Inputs") name "call" ins,
      holder (name ++ "__Outputs") name "call" outs] ∧
    AreGetters "value" "call" "inputValues" inputs ins ∧
    AreGetters "value" "call" "outputValues" outputs outs

theorem uses_callClasses (name : String) (inputs outputs : List Param) :
    Uses (paramTypes inputs ++ paramTypes outputs) (callClasses name inputs outputs)
      (IsCallBinding name inputs outputs) := by
  refine (uses_slots "value" inputs).bind fun ins hi => ?_
  refine (uses_slots "value" outputs).map fun outs ho => ⟨_, rfl, ?_⟩
  obtain ⟨_, eqIns, eachIn⟩ := accessorClass_eq_holder hi (name ++ "__Inputs") name
  obtain ⟨_, eqOuts, eachOut⟩ := accessorClass_eq_holder ho (name ++ "__Outputs") name
  exact ⟨_, _, by rw [eqIns, eqOuts], eachIn, eachOut⟩

theorem uses_callDeclarations (named : List (String × Function)) :
    Uses (functionTypes (named.map Prod.snd)) (callDeclarations named)
      (List.Forall₂ (fun given classes =>
        IsCallBinding (given.1 ++ "Call") given.2.inputs given.2.outputs classes) named) := by
  induction named with
  | nil => exact .pure .nil
  | cons given rest ih =>
      refine (uses_callClasses _ given.2.inputs given.2.outputs).bind fun classes hc => ?_
      exact ih.map fun groups hg => ⟨_, rfl, .cons hc hg⟩

theorem uses_creationDeclarations (abi : Abi) :
    Uses (abi.constructor?.toList.flatMap paramTypes) (creationDeclarations abi)
      (List.Forall₂ (fun inputs classes => IsCallBinding "ConstructorCall" inputs [] classes)
        abi.constructor?.toList) := by
  simp only [creationDeclarations]
  cases abi.constructor? with
  | none => exact .pure .nil
  | some inputs =>
      exact (uses_callClasses _ inputs []).map fun classes hc => ⟨_, rfl, .cons hc .nil⟩

/-! ### The interface -/

/-- The groups are the declarations of an interface: one for each event, the contract, one for the
constructor if there is one, and one for each function that changes the contract. -/
def Declares (abiName : String) (abi : Abi) (groups : List (List ClassDecl)) : Prop :=
  ∃ events contract creation calls, groups = events ++ [[contract]] ++ creation ++ calls ∧
    Bound eventName IsEventBinding abi.events events ∧
    IsContractBinding abiName abi contract ∧
    List.Forall₂ (fun inputs classes => IsCallBinding "ConstructorCall" inputs [] classes)
      abi.constructor?.toList creation ∧
    Bound callName (fun name f => IsCallBinding (name ++ "Call") f.inputs f.outputs)
      (abi.functions.filter fun f => !f.isReadOnly) calls

/-- The class of a contract has the pairs of methods of its functions, with what holds of the pair of
any one. -/
theorem uses_contractPairs {Belongs : String → Function → Member × Member → Prop}
    (each : ∀ name f, Uses (paramTypes f.inputs ++ paramTypes f.outputs) (callMethods name f)
      fun members => ∃ pair, members = [pair.1, pair.2] ∧ Belongs name f pair)
    (abiName : String) (abi : Abi) :
    Uses (functionTypes (abi.functions.filter Function.isCallable)) (contractClass abiName abi)
      fun c => ∃ pairs, c = ⟨contractName abiName, some "ethereum.SmartContract",
          bindMethod abiName :: pairs.flatMap fun pair => [pair.1, pair.2]⟩ ∧
        Bound methodName Belongs (abi.functions.filter Function.isCallable) pairs := by
  have h := uses_contractMethods each (callable abi)
  rw [callable, map_snd_zip_distinctNames, ← callable] at h
  refine h.map fun members hm => ?_
  obtain ⟨pairs, rfl, hp⟩ := hm
  exact ⟨_, rfl, pairs, rfl, bound_of_zip hp⟩

theorem uses_contractClass (abiName : String) (abi : Abi) :
    Uses (functionTypes (abi.functions.filter Function.isCallable)) (contractClass abiName abi)
      (IsContractBinding abiName abi) :=
  uses_contractPairs uses_callMethods abiName abi

/-- **The declarations of an interface leave nothing of it out**, and fail over its first type that
is not supported. -/
theorem uses_declarations (abiName : String) (abi : Abi) :
    Uses (usedTypes abi) (declarations abiName abi) (Declares abiName abi) := by
  have events := uses_eventDeclarations (namedEvents abi)
  rw [namedEvents, map_snd_zip_distinctNames, ← namedEvents] at events
  have calls := uses_callDeclarations (changing abi)
  rw [changing, map_snd_zip_distinctNames, ← changing] at calls
  rw [usedTypes, List.append_assoc, List.append_assoc]
  refine events.bind fun es he => (uses_contractClass abiName abi).bind fun contract hc => ?_
  refine (uses_creationDeclarations abi).bind fun creation hk => calls.map fun cs hcs => ?_
  exact ⟨_, rfl, es, contract, creation, cs, rfl, bound_of_zip he, hc, hk, bound_of_zip hcs⟩

end Subgraph.Ethereum

namespace Subgraph.Interface

open Ethereum Generated

variable (name : String) (file : Path) (abi : Abi)

theorem uses_ofContract :
    Uses (usedTypes abi) (ofContract name file abi).declarations fun texts =>
      ∃ groups, texts = groups.map declarationText ∧ Declares name abi groups :=
  (uses_declarations name abi).map fun groups h => ⟨_, rfl, groups, rfl, h⟩

/-- **The bindings of a contract interface are complete**: there are none exactly if a type in them
is not supported, and then the first such type is the reason; otherwise their declarations are those
of the interface. -/
theorem declarations_complete :
    (∀ e, (ofContract name file abi).declarations = .error e ↔
      ∃ type, (usedTypes abi).find? (!isSupported ·) = some type ∧ e = .unsupportedType type) ∧
    ∀ texts, (ofContract name file abi).declarations = .ok texts →
      ∃ groups, texts = groups.map declarationText ∧ Declares name abi groups :=
  ⟨fun _ => (uses_ofContract name file abi).eq_error_iff,
    fun _ h => (uses_ofContract name file abi).of_ok h⟩

/-- A contract with one event, one function of each kind, and a constructor; the value that it
transfers has this type. -/
def tokenAbi (type : String) : Abi where
  constructor? := some [.mk "supply" "uint256" []]
  functions := [
    ⟨"balanceOf", [.mk "owner" "address" []], [.mk "" "uint256" []], .view⟩,
    ⟨"transfer", [.mk "to" "address" [], .mk "" type []], [.mk "" "bool" []], .nonpayable⟩]
  events := [⟨"Transfer", [.mk "from" "address" [], .mk "" "address[]" []]⟩]

theorem declarations_complete_tokenAbi :
    (∃ texts groups,
      (ofContract "Token" ⟨"token.json"⟩ (tokenAbi "uint256")).declarations = .ok texts ∧
      texts = groups.map declarationText ∧ Declares "Token" (tokenAbi "uint256") groups) ∧
    (ofContract "Token" ⟨"token.json"⟩ (tokenAbi "fixed")).declarations
      = .error (.unsupportedType "fixed") := by
  refine ⟨?_, ((declarations_complete _ _ _).1 _).mpr ⟨"fixed", by decide +kernel, rfl⟩⟩
  have declared : (ofContract "Token" ⟨"token.json"⟩ (tokenAbi "uint256")).declarations.toBool
      = true := by decide +kernel
  rcases h : (ofContract "Token" ⟨"token.json"⟩ (tokenAbi "uint256")).declarations with e | texts
  · rw [h] at declared
    cases declared
  · obtain ⟨groups, ht, hg⟩ := (declarations_complete _ _ _).2 texts h
    exact ⟨texts, groups, rfl, ht, hg⟩

end Subgraph.Interface

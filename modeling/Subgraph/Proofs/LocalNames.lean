import Subgraph.Proofs.MemberNames

/-!
# LocalNames — the parameters of methods beside their local variables

The methods that call a function of a contract have its inputs for parameters, and local variables
of their own: `result` in both of them, and `value` in the one that gives a failed call as a value.
The names of the parameters are free text, and nothing compares them with those of the variables.

* `Member.IsUnshadowed`: no parameter is declared again in the body.
* `uses_localMethods`: the local variables of the two methods.
* `placedName_eq_iff`: a parameter gets the name of a local variable just when it is called so.
* `isUnshadowed_methods_iff`: so the first method declares a parameter again just when one is called
  `result`, and the second one also when one is called `value`.
-/

namespace Subgraph

open Generated Text

/-- No local variable of the member's body has the name of a parameter. -/
def Generated.Member.IsUnshadowed (m : Member) : Prop := ∀ p ∈ m.parameters, p.name ∉ m.locals

instance (m : Member) : Decidable m.IsUnshadowed :=
  inferInstanceAs (Decidable (∀ p ∈ m.parameters, p.name ∉ m.locals))

namespace Ethereum

/-! ### Local variables -/

/-- All local variables that the methods of a contract declare. -/
def localNames : List String := ["result", "value"]

/-- The methods of a function, with the local variables in their bodies. -/
structure HasLocals (name : String) (f : Function) (pair : Member × Member) : Prop where
  methods : IsMethodPair name f pair
  called : pair.1.locals = ["result"]
  tried : pair.2.locals = localNames

theorem uses_localMethods (name : String) (f : Function) :
    Uses (paramTypes f.inputs ++ paramTypes f.outputs) (callMethods name f) fun members =>
      ∃ pair, members = [pair.1, pair.2] ∧ HasLocals name f pair := by
  refine (uses_slots "param" f.inputs).bind fun slots hs => ?_
  refine (uses_soleOutput? f.outputs).map fun sole? _ => ⟨_, rfl, (_, _), rfl, ⟨?_, rfl, rfl⟩⟩
  exact ⟨isCaller_of_slots hs name "call" _ _, isCaller_of_slots hs ("try_" ++ name) "tryCall" _ _⟩

/-! ### Parameters with such names -/

section Names

variable {word given name : String} {placed : Param × Nat}

/-- A parameter gets a given name just when it is called so, if this name cannot come from another
word, and is not made for a parameter without a name. -/
theorem placedName_eq_iff (hw : IsPlaceWord word) (hg : IsIdentifier given)
    (free : '_' ∉ given.toList) (other : word.toList.head? ≠ given.toList.head?) :
    placedName word placed = given ↔ placed.1.name = given := by
  by_cases none : placed.1.name = ""
  · rw [placedName_of_unnamed none, none]
    refine iff_of_false (fun same => other ?_) hg.nonempty.symm
    rw [← same, String.toList_append, List.head?_append_of_ne_nil]
    exact fun empty => hw.identifier.nonempty (String.toList_eq_nil_iff.mp empty)
  · rw [placedName_of_named none, marked_eq_iff hg fun first => free (List.mem_of_mem_head? first),
      wordOf_eq_iff hg free]

theorem placedName_eq_local_iff (known : given ∈ localNames) :
    placedName "param" placed = given ↔ placed.1.name = given := by
  rcases List.mem_pair.mp known with rfl | rfl
  · exact placedName_eq_iff isPlaceWord_param (isIdentifier_text rfl) (by decide) (by decide)
  · exact placedName_eq_iff isPlaceWord_param (isIdentifier_text rfl) (by decide) (by decide)

/-- **A method declares a parameter again** just when an input of its function is called as one of
its local variables. -/
theorem IsCaller.isUnshadowed_iff {way : String} {f : Function} {m : Member}
    (h : IsCaller name way f m) (known : m.locals ⊆ localNames) :
    m.IsUnshadowed ↔ ∀ p ∈ f.inputs, p.name ∉ m.locals := by
  have byName : m.IsUnshadowed ↔ ∀ given ∈ m.parameters.map Parameter.name, given ∉ m.locals := by
    rw [List.forall_mem_map]
    rfl
  rw [byName, h.names.2, List.forall_mem_map, ← forall_mem_zipIdx]
  refine forall₂_congr fun placed _ => not_congr ⟨fun declared => ?_, fun declared => ?_⟩
  · rwa [(placedName_eq_local_iff (known declared)).mp rfl]
  · rwa [(placedName_eq_local_iff (known declared)).mpr rfl]

end Names

/-! ### The methods of a contract -/

/-- The methods of a function: the first one declares a parameter again just when an input is called
`result`, and the second one just when an input is called `result` or `value`. -/
structure ShadowsOwnNames (name : String) (f : Function) (pair : Member × Member) : Prop where
  methods : IsMethodPair name f pair
  called : pair.1.IsUnshadowed ↔ ∀ p ∈ f.inputs, p.name ≠ "result"
  tried : pair.2.IsUnshadowed ↔ ∀ p ∈ f.inputs, p.name ≠ "result" ∧ p.name ≠ "value"

theorem HasLocals.shadowsOwnNames {name : String} {f : Function} {pair : Member × Member}
    (h : HasLocals name f pair) : ShadowsOwnNames name f pair := by
  have first := h.methods.1.isUnshadowed_iff (by rw [h.called]; decide)
  have second := h.methods.2.isUnshadowed_iff (by rw [h.tried]; decide)
  rw [h.called] at first
  rw [h.tried] at second
  simp only [localNames, List.mem_cons, List.not_mem_nil, or_false, not_or] at first second
  exact ⟨h.methods, first, second⟩

variable {abiName : String} {abi : Abi} {c : ClassDecl}

/-- **The methods of a contract keep their parameters** unless an input of a function is called as a
local variable.

Both methods of each function that can be called for its result are concerned, each with its own
variables. -/
theorem isUnshadowed_methods_iff (made : contractClass abiName abi = .ok c) :
    ∃ pairs, c = ⟨contractName abiName, some "ethereum.SmartContract",
        bindMethod abiName :: pairs.flatMap fun pair => [pair.1, pair.2]⟩ ∧
      Bound methodName ShadowsOwnNames (abi.functions.filter Function.isCallable) pairs := by
  refine (uses_contractPairs (fun name f => ?_) abiName abi).of_ok made
  refine (uses_localMethods name f).mono fun members hm => ?_
  obtain ⟨pair, rfl, locals⟩ := hm
  exact ⟨pair, rfl, locals.shadowsOwnNames⟩

/-- An interface with two functions, the second of which has an input called `value`. -/
def payments : Abi where
  constructor? := none
  functions := [
    ⟨"quote", [.mk "_value" "uint8" [], .mk "" "bool" []], [.mk "" "bool" []], .view⟩,
    ⟨"price", [.mk "value" "uint8" []], [.mk "" "uint8" []], .pure⟩]
  events := []

theorem isUnshadowed_methods_iff_payments : ∃ c, contractClass "Pool" payments = .ok c ∧
    ∃ pairs, c = ⟨contractName "Pool", some "ethereum.SmartContract",
        bindMethod "Pool" :: pairs.flatMap fun pair => [pair.1, pair.2]⟩ ∧
      Bound methodName ShadowsOwnNames (payments.functions.filter Function.isCallable) pairs := by
  have made : (contractClass "Pool" payments).toOption.any (fun _ => true) = true := by
    decide +kernel
  obtain ⟨c, made, -⟩ := exists_of_any made
  exact ⟨c, made, isUnshadowed_methods_iff made⟩

/-- An interface with a function whose only input is called `value`. -/
def valued : String :=
  "[\x7b\"type\":\"function\",\"name\":\"f\",\"stateMutability\":\"view\"," ++
  "\"inputs\":[\x7b\"name\":\"value\",\"type\":\"bool\"\x7d]," ++
  "\"outputs\":[\x7b\"name\":\"\",\"type\":\"bool\"\x7d]\x7d]"

/-- The second method of the function declares its parameter `value` again. -/
theorem not_isUnshadowed_valued : ∃ abi c, Abi.parse valued = .ok abi ∧
    contractClass "A" abi = .ok c ∧ ¬ ∀ m ∈ c.members, m.IsUnshadowed := by
  have readable : (Abi.parse valued).toOption.any (fun abi =>
      (contractClass "A" abi).toOption.any fun c =>
        decide ¬ ∀ m ∈ c.members, m.IsUnshadowed) = true := by decide +kernel
  obtain ⟨abi, parsed, made⟩ := exists_of_any readable
  obtain ⟨c, made, shadowed⟩ := exists_of_any made
  exact ⟨abi, c, parsed, made, of_decide_eq_true shadowed⟩

end Ethereum

end Subgraph

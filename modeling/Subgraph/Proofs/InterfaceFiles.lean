import Subgraph.Ethereum.AbiReader
import Subgraph.Proofs.JsonValues

/-!
# InterfaceFiles — the containers of a contract interface

The items of a contract interface are the whole file, or stand in an object that a compiler wrote
around them.  What is read depends on the items only, and on what they say, not on how they are
written.

* `readParam?_of_alike`: of parameters that say the same the same is read, whatever the bound on
  their height; `Item.read?_of_alike`: and so it is of items.
* `HoldsItems`: the three ways in which a file holds a list of items.
* `Abi.itemsOf_eq_some_iff`: the list that a file holds is the one that is looked up.
* `Abi.parse_containers`: files that hold lists of items that say the same give the same interface,
  or all are malformed; files that hold no list are invalid.
-/

namespace Subgraph

namespace Ethereum

open Json (Alike)

variable {a b : Json} {p q : Option Json}

/-! ### Parts -/

theorem bindString?_of_alike (h : Option.Rel Alike p q) :
    p.bind Json.string? = q.bind Json.string? :=
  bind_congr_of_rel h fun _ _ _ _ h => h.string?

theorem itemName?_of_alike (h : Option.Rel Alike p q) : itemName? p = itemName? q :=
  bind_congr_of_rel h fun _ _ _ _ h => by rw [h.string?]

theorem isAbsentOr_of_alike {kind : Json → Bool} (hk : ∀ a b, Alike a b → kind a = kind b)
    (h : Option.Rel Alike p q) : isAbsentOr kind p = isAbsentOr kind q := by
  cases h with
  | none => rfl
  | some h => simp only [isAbsentOr, h.isNull, hk _ _ h]

theorem admitsIndexed_of_alike (place : Place) (h : Option.Rel Alike p q) :
    place.admitsIndexed p = place.admitsIndexed q :=
  isAbsentOr_of_alike (fun _ _ h => by rw [h.bool?]) h

theorem isAbsentOrString_of_alike (h : Option.Rel Alike p q) :
    isAbsentOr (fun value => value.string?.isSome) p =
      isAbsentOr (fun value => value.string?.isSome) q :=
  isAbsentOr_of_alike (fun _ _ h => by rw [h.string?]) h

theorem bindBool?_of_alike {α : Type} {f : Bool → Option α} (h : Option.Rel Alike p q) :
    (do f (← (← p).bool?)) = (do f (← (← q).bool?)) :=
  bind_congr_of_rel h fun _ _ _ _ h => by rw [h.bool?]

/-! ### Parameters -/

/-- The name of a parameter, which may be missing. -/
def paramName? : Option Json → Option String
  | none => some ""
  | some name => itemName? (some name)

/-- The components of a parameter, which may be missing. -/
def components? (height : Nat) : Option Json → Option (List Param)
  | none => some []
  | some value => value.array?.bind (·.mapM (readParam? height .plain))

/-- The parameter that some parts make. -/
def paramOf? (height : Nat) (place : Place) : List (Option Json) → Option Param
  | [name, type, indexed, internalType, components] => do
    let name ← paramName? name
    let type ← type.bind Json.string?
    guard (place.admitsIndexed indexed)
    guard (isAbsentOr (fun value => value.string?.isSome) internalType)
    let components ← components? height components
    guard (isParamType type components)
    return .mk name type components
  | _ => none

theorem readParam?_succ (height : Nat) (place : Place) (json : Json) :
    readParam? (height + 1) place json =
      (json.parts? ["name", "type", "indexed", "internalType", "components"]).bind
        (paramOf? height place) := by
  rw [readParam?]
  refine congrArg (Option.bind _) (funext fun parts => ?_)
  rcases parts with
    _ | ⟨name, _ | ⟨type, _ | ⟨indexed, _ | ⟨internalType, _ | ⟨components, _ | _⟩⟩⟩⟩⟩
  case cons.cons.cons.cons.cons.nil =>
    cases name <;> cases type <;> cases components <;>
      simp [paramOf?, paramName?, components?, Option.bind_assoc]
  all_goals rfl

theorem paramName?_of_alike (h : Option.Rel Alike p q) : paramName? p = paramName? q := by
  cases h with
  | none => rfl
  | some h => exact itemName?_of_alike (.some h)

theorem components?_of_alike {n m : Nat} (h : Option.Rel Alike p q)
    (hp : ∀ value, p = some value → value.height < n + 1)
    (hq : ∀ value, q = some value → value.height < m + 1)
    (each : ∀ x y, x.height < n → y.height < m → Alike x y →
      readParam? n .plain x = readParam? m .plain y) : components? n p = components? m q := by
  cases h with
  | none => rfl
  | some h =>
      refine bind_congr_of_rel h.array? fun xs ys hxs hys items => ?_
      refine mapM_congr_of_forall₂ items fun x hx y hy => each x y ?_ ?_
      · exact Nat.lt_of_lt_of_le (Json.height_lt_of_array hxs hx) (Nat.le_of_lt_succ (hp _ rfl))
      · exact Nat.lt_of_lt_of_le (Json.height_lt_of_array hys hy) (Nat.le_of_lt_succ (hq _ rfl))

/-- **Parameters that say the same.**  The bounds may differ, as a field that does not count may be
the highest part of a parameter. -/
theorem readParam?_of_alike {n m : Nat} (place : Place) (ha : a.height < n) (hb : b.height < m)
    (h : Alike a b) : readParam? n place a = readParam? m place b := by
  induction n generalizing m place a b with
  | zero => cases ha
  | succ n ih =>
      cases m with
      | zero => cases hb
      | succ m =>
          rw [readParam?_succ, readParam?_succ]
          refine bind_congr_of_rel (h.parts? _) fun ps qs hps hqs each => ?_
          have components {p q : Option Json} (hp : p ∈ ps) (hq : q ∈ qs)
              (h : Option.Rel Alike p q) : components? n p = components? m q := by
            refine components?_of_alike h ?_ ?_ fun x y hx hy hxy => ih .plain hx hy hxy
            · rintro value rfl
              exact Nat.lt_trans (Json.height_lt_of_parts hps hp) ha
            · rintro value rfl
              exact Nat.lt_trans (Json.height_lt_of_parts hqs hq) hb
          -- the five parts; other numbers of parts make no parameter
          rcases each with
            _ | ⟨name, _ | ⟨type, _ | ⟨indexed, _ | ⟨internalType, _ | ⟨inner, _ | _⟩⟩⟩⟩⟩
          case cons.cons.cons.cons.cons.nil =>
            simp only [paramOf?, paramName?_of_alike name, bindString?_of_alike type,
              admitsIndexed_of_alike _ indexed, isAbsentOrString_of_alike internalType,
              components (by simp) (by simp) inner]
          all_goals rfl

/-- A list of parameters. -/
theorem params?_of_alike (place : Place) (h : Option.Rel Alike p q) :
    params? place p = params? place q := by
  refine bind_congr_of_rel h fun v w _ _ h => ?_
  refine bind_congr_of_rel h.array? fun xs ys _ _ items => ?_
  exact mapM_congr_of_forall₂ items fun x _ y _ h =>
    readParam?_of_alike place (Nat.lt_succ_self _) (Nat.lt_succ_self _) h

/-! ### Mutability -/

section Fields

variable {fs gs : List (String × Json)}

theorem flag?_of_alike (key : String) (h : Alike (.object fs) (.object gs)) :
    flag? key fs = flag? key gs := by
  have value := h.lastOf key
  rw [flag?, flag?]
  generalize Json.lastOf key fs = v, Json.lastOf key gs = w at value
  cases value with
  | none => rfl
  | some alike => cases alike <;> rfl

/-- The only key of an object is the one that has a value. -/
theorem onlyField?_eq_some_iff {key : String} {value : Json} :
    onlyField? fs = some (key, value) ↔
      Json.lastOf key fs = some value ∧ ∀ other ≠ key, Json.lastOf other fs = none := by
  simp only [onlyField?]
  constructor
  · intro h
    split at h
    · next key' value' last =>
        split at h
        · next all =>
            cases h
            obtain ⟨before, rfl⟩ := List.getLast?_eq_some_iff.mp last
            refine ⟨Json.lastOf_concat .., fun other ne => ?_⟩
            refine Json.lastOf_eq_none_iff.mpr fun field hf same => ne ?_
            have one := List.all_eq_true.mp all field hf
            exact same.symm.trans (beq_iff_eq.mp one)
        · cases h
    · cases h
  · rintro ⟨found, others⟩
    have all : ∀ field ∈ fs, field.1 = key := by
      intro field hf
      by_contra ne
      exact Json.lastOf_eq_none_iff.mp (others _ ne) field hf rfl
    obtain ⟨before, after, rfl, behind⟩ := Json.lastOf_eq_some_iff.mp found
    have none : after = [] := List.eq_nil_iff_forall_not_mem.mpr fun field hf =>
      behind field hf (all field (by simp [hf]))
    subst none
    have same : (before ++ [(key, value)]).all (·.1 == key) = true :=
      List.all_eq_true.mpr fun field hf => beq_iff_eq.mpr (all field hf)
    rw [List.getLast?_concat]
    exact if_pos same

theorem onlyField?_eq_none_iff :
    onlyField? fs = none ↔
      ∀ key, (∀ other ≠ key, Json.lastOf other fs = none) → Json.lastOf key fs = none := by
  simp only [Option.eq_none_iff_forall_ne_some]
  constructor
  · intro none key others value found
    exact none (key, value) (onlyField?_eq_some_iff.mpr ⟨found, fun other ne =>
      Option.eq_none_iff_forall_ne_some.mpr (others other ne)⟩)
  · rintro none ⟨key, value⟩ only
    obtain ⟨found, others⟩ := onlyField?_eq_some_iff.mp only
    exact none key (fun other ne => Option.eq_none_iff_forall_ne_some.mp (others other ne)) value
      found

theorem onlyField?_of_alike (h : Alike (.object fs) (.object gs)) :
    Option.Rel (fun f g => f.1 = g.1 ∧ Alike f.2 g.2) (onlyField? fs) (onlyField? gs) := by
  have none_iff (key : String) := eq_none_iff_of_rel (h.lastOf key)
  rcases hf : onlyField? fs with _ | ⟨key, v⟩
  · rw [onlyField?_eq_none_iff] at hf
    have none : onlyField? gs = none := onlyField?_eq_none_iff.mpr fun key others =>
      (none_iff key).mp (hf key fun other ne => (none_iff other).mpr (others other ne))
    rw [none]
    exact .none
  · obtain ⟨found, others⟩ := onlyField?_eq_some_iff.mp hf
    have same := h.lastOf key
    rw [found] at same
    generalize hw : Json.lastOf key gs = w at same
    cases same with
    | some alike =>
        rw [onlyField?_eq_some_iff.mpr ⟨hw, fun other ne => (none_iff other).mp (others other ne)⟩]
        exact .some ⟨rfl, alike⟩

theorem mutabilityValue?_of_alike (h : Alike a b) : mutabilityValue? a = mutabilityValue? b := by
  cases h with
  | @object fs gs each =>
      have only := onlyField?_of_alike (.object each)
      simp only [mutabilityValue?]
      generalize onlyField? fs = f, onlyField? gs = g at only
      cases only with
      | none => rfl
      | @some f g same =>
          obtain ⟨key, v⟩ := f
          obtain ⟨key', w⟩ := g
          obtain ⟨rfl, alike⟩ := same
          cases alike with
          | @object fs gs each =>
              -- only an object without fields tells what `null` does
              have empty := Alike.eq_nil_iff (.object each)
              cases fs with
              | nil => rw [empty.mp rfl]
              | cons f fs =>
                  cases gs with
                  | nil => cases empty.mpr rfl
                  | cons g gs => rfl
          | _ => rfl
  | _ => rfl

/-- The mutability that the fields of an item tell. -/
theorem mutability?_of_alike (h : Alike (.object fs) (.object gs)) :
    mutability? fs = mutability? gs := by
  have value := h.lastOf "stateMutability"
  rw [mutability?, mutability?, flag?_of_alike "payable" h, flag?_of_alike "constant" h]
  generalize Json.lastOf "stateMutability" fs = v, Json.lastOf "stateMutability" gs = w at value
  cases value with
  | none => rfl
  | some alike =>
      cases alike with
      | object each => simp only [mutabilityValue?_of_alike (.object each)]
      | _ => rfl

end Fields

/-! ### Items -/

namespace Item

theorem tag?_of_alike (h : Alike a b) : tag? a = tag? b := by
  cases h with
  | object each => exact bindString?_of_alike (each "type")
  | array items =>
      cases items with
      | nil => rfl
      | cons first _ => exact first.string?
  | _ => rfl

/-- What is made of the fields of an item is made of those of another one, too. -/
theorem fields?_bind_of_alike {α : Type} {f : List (String × Json) → Option α} (h : Alike a b)
    (hf : ∀ fs gs, Alike (.object fs) (.object gs) → f fs = f gs) :
    (fields? a).bind f = (fields? b).bind f := by
  cases h with
  | object each => exact hf _ _ (.object each)
  | _ => rfl

theorem readCreation?_of_alike (h : Alike a b) : readCreation? a = readCreation? b :=
  fields?_bind_of_alike h fun fs gs h => by
    rw [params?_of_alike .plain (h.lastOf "inputs"), mutability?_of_alike h]

theorem readFunction?_of_alike (h : Alike a b) : readFunction? a = readFunction? b :=
  fields?_bind_of_alike h fun fs gs h => by
    rw [itemName?_of_alike (h.lastOf "name"), params?_of_alike .plain (h.lastOf "inputs"),
      params?_of_alike .plain (h.lastOf "outputs"), mutability?_of_alike h]

theorem readEvent?_of_alike (h : Alike a b) : readEvent? a = readEvent? b := by
  refine bind_congr_of_rel (h.parts? _) fun ps qs _ _ each => ?_
  rcases each with _ | ⟨htag, _ | ⟨hname, _ | ⟨hinputs, _ | ⟨hflag, _ | _⟩⟩⟩⟩
  case cons.cons.cons.cons.nil =>
    simp only [itemName?_of_alike hname, params?_of_alike .event hinputs, bindBool?_of_alike hflag]
  all_goals rfl

theorem readFailure?_of_alike (h : Alike a b) : readFailure? a = readFailure? b := by
  refine bind_congr_of_rel (h.parts? _) fun ps qs _ _ each => ?_
  rcases each with _ | ⟨htag, _ | ⟨hname, _ | ⟨hinputs, _ | _⟩⟩⟩
  case cons.cons.cons.nil =>
    simp only [itemName?_of_alike hname, params?_of_alike .plain hinputs]
  all_goals rfl

theorem read?_of_alike (h : Alike a b) : read? a = read? b := by
  have mutable : (fields? a).bind mutability? = (fields? b).bind mutability? :=
    fields?_bind_of_alike h fun _ _ => mutability?_of_alike
  simp only [read?, tag?_of_alike h, mutable, readCreation?_of_alike h, readFunction?_of_alike h,
    readEvent?_of_alike h, readFailure?_of_alike h]

end Item

/-! ### Containers -/

/-- A file holds a list of items: it is the list, or an object with the list under `abi`.  An object
under `compilerOutput` that has an `abi` goes first. -/
inductive HoldsItems : Json → List Json → Prop
  | bare (items : List Json) : HoldsItems (.array items) items
  | direct {fields : List (String × Json)} {items : List Json}
      (list : Json.HasField fields "abi" (.array items))
      (alone : ∀ output, Json.HasField fields "compilerOutput" (.object output) →
        ∀ value, ¬ Json.HasField output "abi" value) :
      HoldsItems (.object fields) items
  | compiled {fields output : List (String × Json)} {items : List Json}
      (inside : Json.HasField fields "compilerOutput" (.object output))
      (list : Json.HasField output "abi" (.array items)) :
      HoldsItems (.object fields) items

namespace Abi

variable {json json' : Json} {items items' : List Json} {fields : List (String × Json)}

/-- What is under `abi` in the object under `compilerOutput`. -/
def inner? (fields : List (String × Json)) : Option Json :=
  (Json.lastOf "compilerOutput" fields).bind (Json.field? "abi")

theorem itemsOf_object :
    itemsOf (.object fields) = (inner? fields).or (Json.lastOf "abi" fields) := by
  rw [itemsOf, inner?]
  cases Json.lastOf "compilerOutput" fields <;> rfl

theorem inner?_eq_some_iff {value : Json} :
    inner? fields = some value ↔ ∃ output, Json.HasField fields "compilerOutput" (.object output) ∧
      Json.HasField output "abi" value := by
  rw [inner?, Option.bind_eq_some_iff]
  constructor
  · rintro ⟨json, outer, found⟩
    cases json with
    | object output =>
        exact ⟨output, Json.lastOf_eq_some_iff.mp outer, Json.lastOf_eq_some_iff.mp found⟩
    | _ => cases found
  · rintro ⟨output, outer, found⟩
    exact ⟨.object output, Json.lastOf_eq_some_iff.mpr outer, Json.lastOf_eq_some_iff.mpr found⟩

theorem inner?_eq_none_iff :
    inner? fields = none ↔ ∀ output, Json.HasField fields "compilerOutput" (.object output) →
      ∀ value, ¬ Json.HasField output "abi" value := by
  simp only [Option.eq_none_iff_forall_ne_some, ne_eq, inner?_eq_some_iff, not_exists, not_and]
  exact ⟨fun h output outer value => h value output outer,
    fun h value output outer => h output outer value⟩

/-- **The list that a file holds** is the one that is looked up. -/
theorem itemsOf_eq_some_iff : itemsOf json = some (.array items) ↔ HoldsItems json items := by
  cases json with
  | object fields =>
      rw [itemsOf_object, Option.or_eq_some_iff, inner?_eq_some_iff, inner?_eq_none_iff,
        Json.lastOf_eq_some_iff]
      constructor
      · rintro (⟨output, inside, list⟩ | ⟨alone, list⟩)
        · exact .compiled inside list
        · exact .direct list alone
      · rintro (_ | ⟨list, alone⟩ | ⟨inside, list⟩)
        · exact .inr ⟨alone, list⟩
        · exact .inl ⟨_, inside, list⟩
  | array others =>
      constructor
      · rintro ⟨⟩
        exact .bare items
      · rintro ⟨⟩
        rfl
  | _ => exact iff_of_false nofun nofun

/-- What is read of a file is read of the list that it holds. -/
theorem ofJson_of_holds (h : HoldsItems json items) : ofJson json = ofJson (.array items) := by
  rw [ofJson, itemsOf_eq_some_iff.mpr h]
  rfl

/-- A file that holds no list of items is no interface. -/
theorem ofJson_of_not_holds (h : ∀ items, ¬ HoldsItems json items) :
    ofJson json = .error (.invalid .notAbi) := by
  rw [ofJson]
  split
  · next items found => exact absurd (itemsOf_eq_some_iff.mp found) (h items)
  · rfl

theorem ofJson_array (items : List Json) :
    ofJson (.array items) =
      ((items.mapM Item.read?).bind ofItems?).elim (.error .malformed) .ok := by
  rw [ofJson, itemsOf_eq_some_iff.mpr (.bare items)]
  dsimp only
  cases (items.mapM Item.read?).bind ofItems? <;> rfl

/-- Items that say the same make the same interface. -/
theorem ofJson_of_alike (h : List.Forall₂ Alike items items') :
    ofJson (.array items) = ofJson (.array items') := by
  have read : items.mapM Item.read? = items'.mapM Item.read? :=
    mapM_congr_of_forall₂ h fun _ _ _ _ alike => Item.read?_of_alike alike
  rw [ofJson_array, ofJson_array, read]

/-- A list of items makes an interface, or it is malformed. -/
theorem ofJson_array_cases (items : List Json) :
    ofJson (.array items) = .error .malformed ∨ ∃ abi, ofJson (.array items) = .ok abi := by
  rw [ofJson_array]
  cases (items.mapM Item.read?).bind ofItems? with
  | none => exact .inl rfl
  | some abi => exact .inr ⟨abi, rfl⟩

/-- **The container of an interface does not matter.**

Two texts of JSON that hold lists of items that say the same, in whatever way, give the same
interface or are malformed, both of them.  A text of JSON that holds no list of items is invalid,
and a text that is not JSON is malformed. -/
theorem parse_containers :
    (∀ text text' json json' items items', Json.parse? text = some json →
      Json.parse? text' = some json' → HoldsItems json items → HoldsItems json' items' →
        List.Forall₂ Alike items items' → parse text = parse text' ∧
          (parse text = .error .malformed ∨ ∃ abi, parse text = .ok abi)) ∧
    (∀ text json, Json.parse? text = some json → (∀ items, ¬ HoldsItems json items) →
      parse text = .error (.invalid .notAbi)) ∧
    ∀ text, Json.parse? text = none → parse text = .error .malformed := by
  refine ⟨fun text text' json json' items items' ht ht' held held' same => ?_,
    fun text json ht none => ?_, fun text ht => ?_⟩
  · rw [parse, parse, ht, ht']
    dsimp only
    rw [ofJson_of_holds held, ofJson_of_holds held', ← ofJson_of_alike same]
    exact ⟨rfl, ofJson_array_cases items⟩
  · rw [parse, ht]
    exact ofJson_of_not_holds none
  · rw [parse, ht]

/-- The fields of an event without parameters. -/
def eventFields : List (String × Json) :=
  [("type", .string "event"), ("name", .string "E"), ("inputs", .array []),
    ("anonymous", .bool false)]

/-- An event that has its name before another one says what the event says. -/
theorem alike_renamed :
    Alike (.object eventFields) (.object (("name", .string "D") :: eventFields)) := by
  refine .object fun key => ?_
  have apart : Json.lastOf key (("name", .string "D") :: eventFields) =
      (Json.lastOf key eventFields).or (Json.lastOf key [("name", .string "D")]) :=
    Json.lastOf_append key [("name", .string "D")] eventFields
  have same : Json.lastOf key (("name", .string "D") :: eventFields) =
      Json.lastOf key eventFields := by
    rw [apart]
    by_cases hk : "name" = key
    · subst hk
      rfl
    · simp [Json.lastOf, hk]
  rw [same]
  cases Json.lastOf key eventFields with
  | none => exact .none
  | some value => exact .some (.refl value)

/-- A list with an event. -/
def eventFile : String :=
  "[\x7b\"type\":\"event\",\"name\":\"E\",\"inputs\":[],\"anonymous\":false\x7d]"

/-- The output of a compiler with the event, which has another name before its own, and an empty
list next to it. -/
def compiledFile : String :=
  "\x7b\"compilerOutput\":\x7b\"abi\":[\x7b\"name\":\"D\"," ++
  "\"type\":\"event\",\"name\":\"E\",\"inputs\":[],\"anonymous\":false\x7d]\x7d,\"abi\":[]\x7d"

/-- The output of a compiler without a list, and a list next to it. -/
def emptyFile : String := "\x7b\"compilerOutput\":\x7b\"abi\":null\x7d,\"abi\":[]\x7d"

/-- The two files with the event give one interface.  The output of a compiler goes before what is
next to it, also where it is no list, and a list that is not closed is none. -/
theorem parse_containers_event :
    (∃ abi, parse eventFile = .ok abi ∧ parse compiledFile = .ok abi) ∧
    parse emptyFile = .error (.invalid .notAbi) ∧ parse "[" = .error .malformed := by
  have ht : Json.parse? eventFile = some (.array [.object eventFields]) := by cbv
  have ht' : Json.parse? compiledFile = some (.object [("compilerOutput", .object [("abi",
      .array [.object (("name", .string "D") :: eventFields)])]), ("abi", .array [])]) := by cbv
  have empty : Json.parse? emptyFile =
      some (.object [("compilerOutput", .object [("abi", .null)]), ("abi", .array [])]) := by cbv
  have compiled : HoldsItems (.object [("compilerOutput", .object [("abi",
      .array [.object (("name", .string "D") :: eventFields)])]), ("abi", .array [])])
      [.object (("name", .string "D") :: eventFields)] :=
    .compiled (Json.lastOf_eq_some_iff.mp rfl) (Json.lastOf_eq_some_iff.mp rfl)
  obtain ⟨same, not, broken⟩ := parse_containers
  obtain ⟨equal, bad | ⟨abi, good⟩⟩ := same _ _ _ _ _ _ ht ht' (.bare _) compiled
    (.cons alike_renamed .nil)
  · have read : (parse eventFile).toBool = true := by
      rw [parse, ht]
      decide +kernel
    rw [bad] at read
    cases read
  · refine ⟨⟨abi, good, equal ▸ good⟩, not _ _ empty fun items held => ?_, broken _ (by cbv)⟩
    have found := itemsOf_eq_some_iff.mpr held
    cases found

end Abi

end Ethereum

end Subgraph

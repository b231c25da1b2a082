import Subgraph.Cosmos.Events
import Subgraph.Proofs.JsonValues

/-!
# DefinitionFiles — the spellings of event definitions

A file of event definitions is their list, or an object that has the list under `events`, next to
whatever else.  An attribute is its key, or an object that has the key under `key`.  It does not
matter which of these are written where.

* `HasSole`: an object has one field with a key, as `soleField?` asks for it.
* `IsAttribute`, `HoldsDefinitions`: the spellings of an attribute and of a file.
* `SameDefinition`: two definitions differ only in how their attributes are spelled.
* `definition?_of_same`: of both the same is read.
* `parseEvents_respelled`: files that hold lists of the same definitions give the same events, or
  fail for the same reason.
-/

namespace Subgraph.Cosmos

variable {key : String} {value json : Json} {fields fs gs : List (String × Json)}
  {items : List Json}

/-! ### Fields that occur once -/

/-- An object has one field with this key, and this is its value. -/
def HasSole (fields : List (String × Json)) (key : String) (value : Json) : Prop :=
  ∃ before after, fields = before ++ (key, value) :: after ∧
    (∀ field ∈ before, field.1 ≠ key) ∧ ∀ field ∈ after, field.1 ≠ key

theorem soleField?_eq_some_iff :
    soleField? key fields = some (some value) ↔ HasSole fields key value := by
  have one : soleField? key fields = some (some value) ↔
      fields.filter (·.1 == key) = [(key, value)] := by
    simp only [soleField?]
    split
    · next none => simp [none]
    · next key' value' single =>
        have found : (key', value') ∈ fields.filter (·.1 == key) := by simp [single]
        obtain rfl : key' = key := beq_iff_eq.mp (List.mem_filter.mp found).2
        simp [single]
    · next single => exact iff_of_false nofun (single key value)
  rw [one, List.filter_eq_cons_iff]
  simp [HasSole]

/-- Two fields are the same, or they have the key and values that are related. -/
inductive SameField (key : String) (R : Json → Json → Prop) :
    String × Json → String × Json → Prop
  | same (field : String × Json) : SameField key R field field
  | under {v w : Json} (related : R v w) : SameField key R (key, v) (key, w)

section SameFields

variable {R : Json → Json → Prop}

theorem SameField.fst_eq {f g : String × Json} (h : SameField key R f g) : f.1 = g.1 := by
  cases h <;> rfl

/-- The sole field with the key: the same, or related values. -/
theorem soleField?_rel (h : List.Forall₂ (SameField key R) fs gs) :
    Option.Rel (Option.Rel fun v w => v = w ∨ R v w) (soleField? key fs) (soleField? key gs) := by
  have under : List.Forall₂ (SameField key R) (fs.filter (·.1 == key)) (gs.filter (·.1 == key)) :=
    List.rel_filter (fun f g hfg => by simp only [hfg.fst_eq]) h
  simp only [soleField?]
  generalize fs.filter (·.1 == key) = xs, gs.filter (·.1 == key) = ys at under
  rcases under with _ | ⟨first, _ | _⟩
  · exact .some .none
  · cases first with
    | same => exact .some (.some (.inl rfl))
    | under related => exact .some (.some (.inr related))
  · exact .none

/-- The fields with another key are the same. -/
theorem soleField?_other {other : String} (ne : other ≠ key)
    (h : List.Forall₂ (SameField key R) fs gs) : soleField? other fs = soleField? other gs := by
  have same : fs.filter (·.1 == other) = gs.filter (·.1 == other) := by
    induction h with
    | nil => rfl
    | cons head _ ih =>
        rw [List.filter_cons, List.filter_cons, ih]
        cases head with
        | same => rfl
        | under => simp [ne.symm]
  simp only [soleField?, same]

end SameFields

/-! ### Spellings -/

/-- An attribute with this key is the key itself, or an object that has it under `key`. -/
inductive IsAttribute : Json → String → Prop
  | bare (key : String) : IsAttribute (.string key) key
  | keyed {fields : List (String × Json)} {key : String}
      (sole : HasSole fields "key" (.string key)) : IsAttribute (.object fields) key

/-- Two attributes have one key.  What is no attribute is the same. -/
inductive SameAttribute : Json → Json → Prop
  | same (json : Json) : SameAttribute json json
  | spelled {a b : Json} {key : String} (ha : IsAttribute a key) (hb : IsAttribute b key) :
      SameAttribute a b

/-- Two lists of attributes have the same ones, in the same order. -/
inductive SameAttributes : Json → Json → Prop
  | list {xs ys : List Json} (each : List.Forall₂ SameAttribute xs ys) :
      SameAttributes (.array xs) (.array ys)

/-- Two definitions have the same attributes and are the same else.  A definition is an object, or
an array of its type and its attributes. -/
inductive SameDefinition : Json → Json → Prop
  | same (json : Json) : SameDefinition json json
  | object {fs gs : List (String × Json)}
      (each : List.Forall₂ (SameField "attributes" SameAttributes) fs gs) :
      SameDefinition (.object fs) (.object gs)
  | parts (type : Json) {a b : Json} (attributes : SameAttributes a b) (others : List Json) :
      SameDefinition (.array (type :: a :: others)) (.array (type :: b :: others))

/-- A file holds a list of definitions: it is the list, or an object that has it under `events`. -/
inductive HoldsDefinitions : Json → List Json → Prop
  | bare (items : List Json) : HoldsDefinitions (.array items) items
  | wrapped {fields : List (String × Json)} {items : List Json}
      (sole : HasSole fields "events" (.array items)) : HoldsDefinitions (.object fields) items

/-! ### Reading -/

theorem attributeKey?_of_isAttribute (h : IsAttribute json key) :
    attributeKey? json = some key := by
  cases h with
  | bare => rfl
  | keyed sole =>
      rw [attributeKey?, soleField?_eq_some_iff.mpr sole]
      rfl

theorem attributeKeys?_of_same {v w : Json} (h : SameAttributes v w) :
    attributeKeys? (some v) = attributeKeys? (some w) := by
  cases h with
  | list each =>
      refine mapM_congr_of_forall₂ each fun x _ y _ h => ?_
      cases h with
      | same => rfl
      | spelled ha hb => rw [attributeKey?_of_isAttribute ha, attributeKey?_of_isAttribute hb]

/-- **Definitions that differ in the spelling of their attributes**: of both the same is read. -/
theorem definition?_of_same {a b : Json} (h : SameDefinition a b) :
    definition? a = definition? b := by
  cases h with
  | same => rfl
  | @object fs gs each =>
      have keys : ∀ p q, Option.Rel (fun v w => v = w ∨ SameAttributes v w) p q →
          attributeKeys? p = attributeKeys? q := by
        rintro _ _ (⟨rfl | same⟩ | _)
        · rfl
        · exact attributeKeys?_of_same same
        · rfl
      rw [definition?, definition?, soleField?_other (by decide) each]
      refine congrArg (Option.bind _) (funext fun type => ?_)
      exact bind_congr_of_rel (soleField?_rel each) fun p q _ _ same => by rw [keys p q same]
  | parts type attributes others =>
      cases others with
      | nil => simp only [definition?, attributeKeys?_of_same attributes]
      | cons => rfl

/-- The definitions of a file are those of the list that it holds. -/
theorem definitions?_of_holds (h : HoldsDefinitions json items) :
    definitions? json = items.mapM definition? := by
  cases h with
  | bare => rfl
  | wrapped sole =>
      rw [definitions?, soleField?_eq_some_iff.mpr sole]
      rfl

/-- A file that holds no list has no definitions. -/
theorem definitions?_of_not_holds (h : ∀ items, ¬ HoldsDefinitions json items) :
    definitions? json = none := by
  cases json with
  | array items => exact absurd (.bare items) (h items)
  | object fields =>
      rw [definitions?]
      rcases sole : soleField? "events" fields with _ | _ | value
      · rfl
      · rfl
      · cases value with
        | array items => exact absurd (.wrapped (soleField?_eq_some_iff.mp sole)) (h items)
        | _ => rfl
  | _ => rfl

/-- **The spelling of event definitions does not matter.**

Two texts of JSON that hold lists of the same definitions give the same events or fail for the same
reason, whether the lists stand alone or under `events`, and whether attributes are keys or objects
that have a key.  A text of JSON that holds no list is refused. -/
theorem parseEvents_respelled :
    (∀ text text' json json' items items', Json.parse? text = some json →
      Json.parse? text' = some json' → HoldsDefinitions json items →
        HoldsDefinitions json' items' → List.Forall₂ SameDefinition items items' →
          parseEvents text = parseEvents text') ∧
    ∀ text json, Json.parse? text = some json → (∀ items, ¬ HoldsDefinitions json items) →
      parseEvents text = .error (.invalid .notDefinitions) := by
  refine ⟨fun text text' json json' items items' ht ht' held held' same => ?_,
    fun text json ht none => ?_⟩
  · have read : items.mapM definition? = items'.mapM definition? :=
      mapM_congr_of_forall₂ same fun _ _ _ _ => definition?_of_same
    simp only [parseEvents, ht, ht', eventsOfJson, definitions?_of_holds held,
      definitions?_of_holds held', read]
  · simp only [parseEvents, ht, eventsOfJson, definitions?_of_not_holds none]

/-- A list of definitions, one of them as an array of its parts. -/
def listFile : String :=
  "[\x7b\"type\":\"transfer\",\"attributes\":[\"sender\",\x7b\"key\":\"amount\"\x7d]\x7d," ++
  "[\"\",[\"k\"]]]"

/-- The same definitions under `events`, with each attribute spelled otherwise. -/
def wrappedFile : String :=
  "\x7b\"chain\":\"hub\",\"events\":" ++
  "[\x7b\"type\":\"transfer\",\"attributes\":[\x7b\"key\":\"sender\"\x7d,\"amount\"]\x7d," ++
  "[\"\",[\x7b\"key\":\"k\"\x7d]]]\x7d"

/-- No list of definitions. -/
def emptyFile : String := "\x7b\"events\":null\x7d"

/-- The second definition of both files has no type, and `null` under `events` is no list. -/
theorem parseEvents_respelled_untyped :
    parseEvents listFile = parseEvents wrappedFile ∧
    parseEvents listFile = .error (.invalid (.emptyType 1)) ∧
    parseEvents emptyFile = .error (.invalid .notDefinitions) := by
  have key (k : String) : IsAttribute (.object [("key", .string k)]) k :=
    .keyed ⟨[], [], rfl, nofun, nofun⟩
  have ht : Json.parse? listFile = some (.array [
      .object [("type", .string "transfer"),
        ("attributes", .array [.string "sender", .object [("key", .string "amount")]])],
      .array [.string "", .array [.string "k"]]]) := by cbv
  have ht' : Json.parse? wrappedFile = some (.object [("chain", .string "hub"),
      ("events", .array [
        .object [("type", .string "transfer"),
          ("attributes", .array [.object [("key", .string "sender")], .string "amount"])],
        .array [.string "", .array [.object [("key", .string "k")]]]])]) := by cbv
  have empty : Json.parse? emptyFile = some (.object [("events", .null)]) := by cbv
  obtain ⟨same, refused⟩ := parseEvents_respelled
  refine ⟨same _ _ _ _ _ _ ht ht' (.bare _) (.wrapped (soleField?_eq_some_iff.mp rfl)) ?_, ?_,
    refused _ _ empty fun items held => ?_⟩
  · exact .cons
      (.object (.cons (.same _) (.cons (.under (.list
        (.cons (.spelled (.bare _) (key _)) (.cons (.spelled (key _) (.bare _)) .nil)))) .nil)))
      (.cons (.parts _ (.list (.cons (.spelled (.bare _) (key _)) .nil)) []) .nil)
  · rw [parseEvents, ht]
    rfl
  · cases held with
    | wrapped sole =>
        have found := soleField?_eq_some_iff.mpr sole
        cases found

end Subgraph.Cosmos

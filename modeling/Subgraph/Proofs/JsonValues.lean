import Mathlib.Data.List.Forall2
import Mathlib.Data.Option.Basic
import Subgraph.Json

/-!
# JsonValues — what a JSON document says, apart from how it is written

A JSON value keeps the fields of an object as they stand in the text.  What they say is less: their
order does not matter, and of fields with one key the last one counts.

* `HasField`: an object has this value under a key, as `lastOf_eq_some_iff` finds it.
* `Alike`: two documents say the same, numbers apart.
* `Alike.lastOf`, `Alike.parts?`: what is looked up in two such documents is alike.
* `height_lt_of_parts`, `height_lt_of_array`: what is looked up is less high than the document.
-/

namespace Subgraph

/-! ### Related options and lists -/

section Related

variable {α β γ : Type} {R : α → β → Prop}

theorem eq_none_iff_of_rel {p : Option α} {q : Option β} (h : Option.Rel R p q) :
    p = none ↔ q = none := by
  cases h <;> simp

/-- What is made of values that are related is the same, if that holds of each two. -/
theorem bind_congr_of_rel {p : Option α} {q : Option β} {f : α → Option γ} {g : β → Option γ}
    (h : Option.Rel R p q) (hf : ∀ x y, p = some x → q = some y → R x y → f x = g y) :
    p.bind f = q.bind g := by
  cases h with
  | none => rfl
  | some h => exact hf _ _ rfl rfl h

/-- What is made of the members of lists that are related is the same. -/
theorem mapM_congr_of_forall₂ {xs : List α} {ys : List β} {f : α → Option γ} {g : β → Option γ}
    (h : List.Forall₂ R xs ys) (hf : ∀ x ∈ xs, ∀ y ∈ ys, R x y → f x = g y) :
    xs.mapM f = ys.mapM g := by
  induction h with
  | nil => rfl
  | cons head _ ih =>
      have first := hf _ (.head _) _ (.head _) head
      have others := ih fun x hx y hy => hf x (.tail _ hx) y (.tail _ hy)
      rw [List.mapM_cons, List.mapM_cons, first, others]

/-- Members at one place are related. -/
theorem rel_getElem? {xs : List α} {ys : List β} (h : List.Forall₂ R xs ys) (i : Nat) :
    Option.Rel R xs[i]? ys[i]? := by
  induction h generalizing i with
  | nil => exact .none
  | cons first _ ih =>
      cases i with
      | zero => exact .some first
      | succ i => exact ih i

end Related

namespace Json

variable {key : String} {value a b : Json} {fields fs gs : List (String × Json)}

/-! ### Fields -/

/-- An object has this value under a key: it is that of the last field with the key. -/
def HasField (fields : List (String × Json)) (key : String) (value : Json) : Prop :=
  ∃ before after, fields = before ++ (key, value) :: after ∧ ∀ field ∈ after, field.1 ≠ key

theorem lastOf_eq_some_iff : lastOf key fields = some value ↔ HasField fields key value := by
  rw [lastOf, Option.map_eq_some_iff]
  constructor
  · rintro ⟨⟨key', value'⟩, found, rfl⟩
    obtain ⟨same, behind, front, split, others⟩ := List.find?_eq_some_iff_append.mp found
    obtain rfl := beq_iff_eq.mp same
    refine ⟨front.reverse, behind.reverse, ?_, fun field hf => ?_⟩
    · rw [← List.reverse_inj, split]
      simp
    · simpa using others field (List.mem_reverse.mp hf)
  · rintro ⟨before, after, rfl, others⟩
    refine ⟨(key, value), List.find?_eq_some_iff_append.mpr ⟨by simp, ?_⟩, rfl⟩
    refine ⟨after.reverse, before.reverse, by simp, fun field hf => ?_⟩
    simpa using others field (List.mem_reverse.mp hf)

theorem lastOf_eq_none_iff : lastOf key fields = none ↔ ∀ field ∈ fields, field.1 ≠ key := by
  simp [lastOf]

theorem eq_nil_iff_lastOf : fields = [] ↔ ∀ key, lastOf key fields = none := by
  simp only [lastOf_eq_none_iff]
  refine ⟨fun h key => by simp [h], fun h => List.eq_nil_iff_forall_not_mem.mpr fun field hf => ?_⟩
  exact h field.1 field hf rfl

/-! ### Heights -/

theorem height_le_of_mem {x : Json} {xs : List Json} (h : x ∈ xs) :
    x.height ≤ heightOfItems xs := by
  induction h with
  | head => exact Nat.le_max_left ..
  | tail _ _ ih => exact Nat.le_trans ih (Nat.le_max_right ..)

theorem height_le_of_field (h : (key, value) ∈ fields) : value.height ≤ heightOfFields fields := by
  induction fields with
  | nil => cases h
  | cons field fields ih =>
      rcases List.mem_cons.mp h with rfl | h
      · exact Nat.le_max_left ..
      · exact Nat.le_trans (ih h) (Nat.le_max_right ..)

theorem height_lt_of_array {xs : List Json} (h : a.array? = some xs) {x : Json} (hx : x ∈ xs) :
    x.height < a.height := by
  cases a with
  | array items =>
      cases h
      rw [height]
      exact Nat.lt_succ_of_le (height_le_of_mem hx)
  | _ => cases h

theorem height_lt_of_lastOf (h : lastOf key fields = some value) :
    value.height < (object fields).height := by
  obtain ⟨before, after, rfl, -⟩ := lastOf_eq_some_iff.mp h
  rw [height]
  exact Nat.lt_succ_of_le (height_le_of_field (List.mem_append_right before (.head after)))

theorem height_lt_of_parts {keys : List String} {parts : List (Option Json)}
    (h : a.parts? keys = some parts) {part : Json} (hp : some part ∈ parts) :
    part.height < a.height := by
  cases a with
  | object fields =>
      cases h
      obtain ⟨key, -, found⟩ := List.mem_map.mp hp
      exact height_lt_of_lastOf found
  | array items =>
      rw [parts?] at h
      split at h
      · cases h
        obtain ⟨i, -, found⟩ := List.mem_map.mp hp
        exact height_lt_of_array rfl (List.mem_of_getElem? found)
      · cases h
  | _ => cases h

/-! ### Documents that say the same -/

/-- Two documents say the same, numbers apart.  Their objects have the same keys, and the values
that count under a key say the same. -/
inductive Alike : Json → Json → Prop
  | null : Alike .null .null
  | bool (value : Bool) : Alike (.bool value) (.bool value)
  | number (text text' : String) : Alike (.number text) (.number text')
  | string (text : String) : Alike (.string text) (.string text)
  | array {xs ys : List Json} (items : List.Forall₂ Alike xs ys) : Alike (.array xs) (.array ys)
  | object {fs gs : List (String × Json)}
      (each : ∀ key, Option.Rel Alike (lastOf key fs) (lastOf key gs)) :
      Alike (.object fs) (.object gs)

namespace Alike

/-- A document says what it says.  The induction is on the height, as the fields that do not count
are in no relation. -/
@[refl]
theorem refl (json : Json) : Alike json json := by
  induction h : json.height using Nat.strongRecOn generalizing json with
  | _ n ih =>
    cases json with
    | null => exact .null
    | bool value => exact .bool value
    | number text => exact .number text text
    | string text => exact .string text
    | array items =>
        exact .array (List.forall₂_same.mpr fun x hx => ih _ (h ▸ height_lt_of_array rfl hx) x rfl)
    | object fields =>
        refine .object fun key => ?_
        cases found : Json.lastOf key fields with
        | none => exact .none
        | some value => exact .some (ih _ (h ▸ height_lt_of_lastOf found) value rfl)

theorem string? (h : Alike a b) : a.string? = b.string? := by cases h <;> rfl

theorem bool? (h : Alike a b) : a.bool? = b.bool? := by cases h <;> rfl

theorem isNull (h : Alike a b) : a.isNull = b.isNull := by cases h <;> rfl

theorem array? (h : Alike a b) : Option.Rel (List.Forall₂ Alike) a.array? b.array? := by
  cases h with
  | array items => exact .some items
  | _ => exact .none

theorem lastOf (h : Alike (.object fs) (.object gs)) (key : String) :
    Option.Rel Alike (Json.lastOf key fs) (Json.lastOf key gs) := by
  cases h with
  | object each => exact each key

theorem eq_nil_iff (h : Alike (.object fs) (.object gs)) : fs = [] ↔ gs = [] := by
  rw [eq_nil_iff_lastOf, eq_nil_iff_lastOf]
  exact forall_congr' fun key => eq_none_iff_of_rel (h.lastOf key)

/-- **The parts of two records** are alike, whether these are objects or arrays. -/
theorem parts? (h : Alike a b) (keys : List String) :
    Option.Rel (List.Forall₂ (Option.Rel Alike)) (a.parts? keys) (b.parts? keys) := by
  cases h with
  | object each =>
      refine .some ?_
      rw [List.forall₂_map_left_iff, List.forall₂_map_right_iff]
      exact List.forall₂_same.mpr fun key _ => each key
  | array items =>
      rw [Json.parts?, Json.parts?, items.length_eq]
      split
      · refine .some ?_
        rw [List.forall₂_map_left_iff, List.forall₂_map_right_iff]
        exact List.forall₂_same.mpr fun i _ => rel_getElem? items i
      · exact .none
  | _ => exact .none

end Alike

end Json

end Subgraph

import Mathlib.Data.Option.Basic
import Subgraph.Interface

/-!
# Reorderings — the order of an interface file does not matter

The bindings of a contract interface do not depend on where its items stand in the file, as long as
items of the same tag and name keep their order: overloads get their suffixes in the order of the
file, and everything else stands in the order of the names.

* `sortByName_congr`: a list in the order of names is determined by what it has under each name.
* `Item.Reorders`: the same items, those of the same tag and name in the same order.
* `Abi.ofJson_reordered`: lists of items that are reordered give the same interface, or none for the
  same reason.
-/

namespace Subgraph

/-! ### The order of names -/

namespace Text

section Order

variable {α : Type} {name : α → String}

/-- The members of a list under a name, in their order. -/
def under (name : α → String) (n : String) (xs : List α) : List α := xs.filter (name · == n)

theorem mem_under {n : String} {x : α} {xs : List α} :
    x ∈ under name n xs ↔ x ∈ xs ∧ name x = n := by
  rw [under, List.mem_filter, beq_iff_eq]

theorem under_append (n : String) (xs ys : List α) :
    under name n (xs ++ ys) = under name n xs ++ under name n ys := List.filter_append ..

theorem under_cons_of_eq {n : String} {x : α} (h : name x = n) (xs : List α) :
    under name n (x :: xs) = x :: under name n xs := by
  rw [under, List.filter_cons_of_pos (by rwa [beq_iff_eq]), under]

theorem under_cons_of_ne {n : String} {x : α} (h : name x ≠ n) (xs : List α) :
    under name n (x :: xs) = under name n xs := by
  rw [under, List.filter_cons_of_neg (by rwa [beq_iff_eq]), under]

/-- The members of a list stand in the order of their names. -/
def IsOrdered (name : α → String) (xs : List α) : Prop := xs.Pairwise fun x y => name x ≤ name y

/-- A list in the order of names begins with a least name. -/
theorem IsOrdered.le_of_mem {x y : α} {xs : List α} (h : IsOrdered name (x :: xs))
    (hy : y ∈ x :: xs) : name x ≤ name y := by
  rcases List.mem_cons.mp hy with rfl | hy
  · exact String.le_refl _
  · exact (List.pairwise_cons.mp h).1 y hy

theorem isOrdered_insertByName {xs : List α} (h : IsOrdered name xs) (x : α) :
    IsOrdered name (insertByName name x xs) := by
  induction xs with
  | nil => exact List.pairwise_singleton _ x
  | cons y ys ih =>
      obtain ⟨head, tail⟩ := List.pairwise_cons.mp h
      rw [insertByName]
      split
      · next hlt =>
          have hxy : name x ≤ name y := String.not_lt.mp (String.lt_asymm hlt)
          refine List.pairwise_cons.mpr ⟨fun z hz => ?_, h⟩
          exact String.le_trans hxy (h.le_of_mem hz)
      · next hge =>
          refine List.pairwise_cons.mpr ⟨fun z hz => ?_, ih tail⟩
          rcases mem_insertByName.mp hz with rfl | hz
          · exact String.not_lt.mp hge
          · exact head z hz

/-- A member is inserted behind those of the same name. -/
theorem under_insertByName {xs : List α} (h : IsOrdered name xs) (x : α) (n : String) :
    under name n (insertByName name x xs) = under name n xs ++ under name n [x] := by
  induction xs with
  | nil => rfl
  | cons y ys ih =>
      obtain ⟨head, tail⟩ := List.pairwise_cons.mp h
      rw [insertByName]
      split
      · next hlt =>
          by_cases hx : name x = n
          · -- all that stand behind have greater names
            have greater : ∀ z ∈ y :: ys, name z ≠ n := by
              intro z hz hn
              have hyz := h.le_of_mem hz
              rw [hn, ← hx] at hyz
              exact String.not_lt.mpr hyz hlt
            have none : under name n (y :: ys) = [] :=
              List.eq_nil_iff_forall_not_mem.mpr fun z hz =>
                greater z (mem_under.mp hz).1 (mem_under.mp hz).2
            rw [under_cons_of_eq hx, none, under_cons_of_eq hx]
            rfl
          · rw [under_cons_of_ne hx, under_cons_of_ne hx]
            exact (List.append_nil _).symm
      · by_cases hy : name y = n
        · rw [under_cons_of_eq hy, under_cons_of_eq hy, ih tail, List.cons_append]
        · rw [under_cons_of_ne hy, under_cons_of_ne hy, ih tail]

/-- What the insertions of a list's members keep up, one after the other. -/
theorem foldl_insertByName (xs : List α) {sorted : List α} (h : IsOrdered name sorted) :
    IsOrdered name (xs.foldl (fun sorted x => insertByName name x sorted) sorted) ∧
    ∀ n, under name n (xs.foldl (fun sorted x => insertByName name x sorted) sorted)
      = under name n sorted ++ under name n xs := by
  induction xs generalizing sorted with
  | nil => exact ⟨h, fun n => (List.append_nil _).symm⟩
  | cons x xs ih =>
      obtain ⟨ordered, each⟩ := ih (isOrdered_insertByName h x)
      refine ⟨ordered, fun n => (each n).trans ?_⟩
      rw [under_insertByName h, List.append_assoc, ← under_append, List.singleton_append]

theorem isOrdered_sortByName (xs : List α) : IsOrdered name (sortByName name xs) :=
  (foldl_insertByName xs .nil).1

/-- Those of the same name keep their order. -/
theorem under_sortByName (xs : List α) (n : String) :
    under name n (sortByName name xs) = under name n xs :=
  (foldl_insertByName xs .nil).2 n

/-- A list has every member of another one that has the same members under each name. -/
theorem mem_of_under_eq {xs ys : List α} (h : ∀ n, under name n xs = under name n ys) {x : α}
    (hx : x ∈ xs) : x ∈ ys := by
  have here : x ∈ under name (name x) xs := mem_under.mpr ⟨hx, rfl⟩
  rw [h] at here
  exact (mem_under.mp here).1

/-- A list in the order of names is determined by what it has under each name. -/
theorem IsOrdered.eq_of_under_eq {xs ys : List α} (hx : IsOrdered name xs)
    (hy : IsOrdered name ys) (h : ∀ n, under name n xs = under name n ys) : xs = ys := by
  induction xs generalizing ys with
  | nil =>
      cases ys with
      | nil => rfl
      | cons y ys =>
          exact absurd (mem_of_under_eq (fun n => (h n).symm) List.mem_cons_self) List.not_mem_nil
  | cons x xs ih =>
      cases ys with
      | nil => exact absurd (mem_of_under_eq h List.mem_cons_self) List.not_mem_nil
      | cons y ys =>
          -- each of the first members stands in the other list, so their names are the same
          have hxy := hx.le_of_mem (mem_of_under_eq (fun n => (h n).symm) List.mem_cons_self)
          have hyx := hy.le_of_mem (mem_of_under_eq h List.mem_cons_self)
          have same : name y = name x := String.le_antisymm hyx hxy
          have heads := h (name x)
          rw [under_cons_of_eq rfl, under_cons_of_eq same] at heads
          obtain ⟨rfl, tails⟩ := List.cons.inj heads
          refine congrArg (x :: ·) (ih hx.tail hy.tail fun n => ?_)
          by_cases hn : name x = n
          · exact hn ▸ tails
          · have := h n
            rwa [under_cons_of_ne hn, under_cons_of_ne hn] at this

/-- Lists that have the same members under each name, in the same order, are the same in the order
of names. -/
theorem sortByName_congr {xs ys : List α} (h : ∀ n, under name n xs = under name n ys) :
    sortByName name xs = sortByName name ys := by
  refine (isOrdered_sortByName xs).eq_of_under_eq (isOrdered_sortByName ys) fun n => ?_
  rw [under_sortByName, under_sortByName, h]

end Order

end Text

/-! ### Items of the same tag and name -/

namespace Ethereum

namespace Item

/-- The name of an item, its second part. -/
def name? : Json → Option String
  | .object fields => (Json.lastOf "name" fields).bind Json.string?
  | .array (_ :: name :: _) => name.string?
  | _ => none

/-- The tag and the name of an item that has both. -/
def key? (json : Json) : Option (String × String) := do return (← tag? json, ← name? json)

/-- The lists have the same items, and those of the same tag and name in the same order. -/
structure Reorders (items items' : List Json) : Prop where
  perm : items.Perm items'
  kept : ∀ key, items.filter (key? · == some key) = items'.filter (key? · == some key)

namespace Reorders

variable {items items' : List Json}

/-- Two neighbours that do not have the same tag and name may change places. -/
theorem swap {x y : Json} (h : ∀ key, key? x = some key → key? y ≠ some key)
    (before after : List Json) :
    Reorders (before ++ x :: y :: after) (before ++ y :: x :: after) := by
  refine ⟨.append_left before (.swap y x after), fun key => ?_⟩
  rw [List.filter_append, List.filter_append]
  congr 1
  by_cases hx : key? x = some key
  · have hy := h key hx
    simp [hx, hy]
  · simp [List.filter_cons, hx]

/-- What is made of the items of a tag is the same under each name, in the same order. -/
theorem under_filterMap {α : Type} {make : Json → Option α} {tag : String} {name : α → String}
    (hm : ∀ json x, make json = some x → key? json = some (tag, name x))
    (h : Reorders items items') (n : String) :
    Text.under name n (items.filterMap make) = Text.under name n (items'.filterMap make) := by
  have under_eq (items : List Json) : Text.under name n (items.filterMap make)
      = (items.filter (key? · == some (tag, n))).filterMap fun json =>
          (make json).filter (name · == n) := by
    rw [Text.under, List.filter_filterMap, List.filterMap_filter]
    -- an item with another key makes nothing under this name
    refine congrArg (items.filterMap ·) (funext fun json => ?_)
    split
    · rfl
    · next hne =>
        rcases hx : make json with _ | x
        · rfl
        · have hn : name x ≠ n := by
            rintro rfl
            exact hne (beq_iff_eq.mpr (hm json x hx))
          simp [Option.filter, hn]
  rw [under_eq, under_eq, h.kept]

end Reorders

/-! ### Reading -/

/-- The name of a part that must be a name is written there. -/
theorem string?_of_itemName? {part : Option Json} {name : String}
    (h : itemName? part = some name) : part.bind Json.string? = some name := by
  simp only [itemName?, Option.bind_eq_bind, Option.bind_eq_some_iff] at h
  obtain ⟨json, rfl, text, ht, u, hu, hn⟩ := h
  cases hn
  exact ht

theorem readFunction?_eq_some {json : Json} {item : Item} (h : readFunction? json = some item) :
    ∃ f, item = .function f ∧ name? json = some f.name := by
  simp only [readFunction?, Option.bind_eq_bind, Option.bind_eq_some_iff] at h
  obtain ⟨fields, hf, name, hn, inputs, -, outputs, -, mutability, -, hi⟩ := h
  cases hi
  cases json with
  | object fields' =>
      cases hf
      exact ⟨_, rfl, string?_of_itemName? hn⟩
  | _ => cases hf

theorem readEvent?_eq_some {json : Json} {item : Item} (h : readEvent? json = some item) :
    ∃ e, item = .event e ∧ name? json = some e.name := by
  simp only [readEvent?, Option.bind_eq_bind, Option.bind_eq_some_iff] at h
  obtain ⟨parts, hp, h⟩ := h
  split at h
  · next tag name inputs anonymous =>
      simp only [Option.bind_eq_some_iff] at h
      obtain ⟨given, hn, params, -, flag, -, flag', -, hi⟩ := h
      cases hi
      refine ⟨_, rfl, ?_⟩
      have hn := string?_of_itemName? hn
      cases json with
      | object fields =>
          cases hp
          exact hn
      | array items =>
          simp only [Json.parts?] at hp
          split at hp
          · cases hp
            rcases items with _ | ⟨x, _ | ⟨y, items⟩⟩
            · cases hn
            · cases hn
            · exact hn
          · cases hp
      | _ => cases hp
  · cases h

theorem readCreation?_eq_some {json : Json} {item : Item} (h : readCreation? json = some item) :
    ∃ inputs, item = .creation inputs := by
  simp only [readCreation?, Option.bind_eq_bind, Option.bind_eq_some_iff] at h
  obtain ⟨_, _, inputs, _, _, _, hi⟩ := h
  cases hi
  exact ⟨inputs, rfl⟩

theorem readFailure?_eq_some {json : Json} {item : Item} (h : readFailure? json = some item) :
    item = .failure := by
  simp only [readFailure?, Option.bind_eq_bind, Option.bind_eq_some_iff] at h
  obtain ⟨parts, _, h⟩ := h
  split at h
  · simp only [Option.bind_eq_some_iff] at h
    obtain ⟨_, _, _, _, hi⟩ := h
    cases hi
    rfl
  · cases h

/-- The tag and the name of what is read of a function or an event. -/
def declared? : Item → Option (String × String)
  | .function f => some ("function", f.name)
  | .event e => some ("event", e.name)
  | _ => none

theorem key?_of_read? {json : Json} {item : Item} {key : String × String}
    (h : read? json = some item) (hk : item.declared? = some key) : key? json = some key := by
  obtain ⟨tag, ht, h⟩ := Option.bind_eq_some_iff.mp h
  -- one case for each tag; of what is read, only functions and events have a name
  split at h
  · obtain ⟨_, rfl⟩ := readCreation?_eq_some h
    cases hk
  · obtain ⟨_, _, rfl⟩ := Option.map_eq_some_iff.mp h
    cases hk
  · obtain ⟨_, _, rfl⟩ := Option.map_eq_some_iff.mp h
    cases hk
  · obtain ⟨f, rfl, hn⟩ := readFunction?_eq_some h
    cases hk
    rw [key?, ht, hn]
    rfl
  · obtain ⟨e, rfl, hn⟩ := readEvent?_eq_some h
    cases hk
    rw [key?, ht, hn]
    rfl
  · obtain rfl := readFailure?_eq_some h
    cases hk
  · cases h

/-- A function is read of an item with the tag of functions and its name. -/
theorem key?_of_function {json : Json} {f : Function}
    (h : (read? json).bind function? = some f) : key? json = some ("function", f.name) := by
  obtain ⟨item, hr, hf⟩ := Option.bind_eq_some_iff.mp h
  refine key?_of_read? hr ?_
  cases item with
  | function g =>
      cases hf
      rfl
  | _ => cases hf

/-- An event is read of an item with the tag of events and its name. -/
theorem key?_of_event {json : Json} {e : Event}
    (h : (read? json).bind event? = some e) : key? json = some ("event", e.name) := by
  obtain ⟨item, hr, he⟩ := Option.bind_eq_some_iff.mp h
  refine key?_of_read? hr ?_
  cases item with
  | event e' =>
      cases he
      rfl
  | _ => cases he

end Item

/-! ### Interfaces -/

/-- All members of a list are turned into others, or none of them is. -/
theorem mapM_eq_ite {α β : Type} {f : α → Option β} (xs : List α) :
    xs.mapM f = if xs.all (f · |>.isSome) then some (xs.filterMap f) else none := by
  induction xs with
  | nil => rfl
  | cons x xs ih =>
      rw [List.mapM_cons, ih]
      cases hx : f x with
      | none => simp [hx]
      | some y => by_cases h : xs.all (f · |>.isSome) <;> simp [hx, h]

/-- Of a list with one member at most, a reordering has the same first member. -/
theorem head?_eq_of_perm {α : Type} {xs ys : List α} (h : xs.Perm ys) (hl : xs.length ≤ 1) :
    xs.head? = ys.head? := by
  match xs, hl with
  | [], _ => rw [List.nil_perm.mp h]
  | [x], _ => rw [List.singleton_perm.mp h]

namespace Abi

variable {items items' : List Json}

/-- The items of which functions and events under each name are the same, in the same order, make
the same interface in any other order. -/
theorem ofItems?_congr {xs ys : List Item} (h : xs.Perm ys)
    (functions : ∀ n, Text.under Function.name n (xs.filterMap Item.function?)
      = Text.under Function.name n (ys.filterMap Item.function?))
    (events : ∀ n, Text.under Event.name n (xs.filterMap Item.event?)
      = Text.under Event.name n (ys.filterMap Item.event?)) :
    ofItems? xs = ofItems? ys := by
  have creations := h.filterMap Item.creation?
  simp only [ofItems?, ← creations.length_eq, ← h.countP_eq, ← Text.sortByName_congr functions,
    ← Text.sortByName_congr events]
  split
  · next once => rw [head?_eq_of_perm creations once.1]
  · rfl

/-- **Reordered items give the same interface**, or fail to for the same reason. -/
theorem ofJson_reordered (h : Item.Reorders items items') :
    ofJson (.array items) = ofJson (.array items') := by
  have read : ofItems? (items.filterMap Item.read?) = ofItems? (items'.filterMap Item.read?) := by
    refine ofItems?_congr (h.perm.filterMap _) (fun n => ?_) fun n => ?_
    · rw [List.filterMap_filterMap, List.filterMap_filterMap]
      exact h.under_filterMap (fun _ _ => Item.key?_of_function) n
    · rw [List.filterMap_filterMap, List.filterMap_filterMap]
      exact h.under_filterMap (fun _ _ => Item.key?_of_event) n
  have all : items.all (Item.read? · |>.isSome) = items'.all (Item.read? · |>.isSome) :=
    h.perm.all_eq
  have same : (items.mapM Item.read?).bind ofItems? = (items'.mapM Item.read?).bind ofItems? := by
    rw [mapM_eq_ite, mapM_eq_ite, all]
    split
    · exact read
    · rfl
  simp only [ofJson, itemsOf, same]

end Abi

end Ethereum

namespace Interface

open Ethereum

/-- **The bindings of an interface do not depend on the order of its file**: when the items of two
files are the same, and those of the same tag and name stand in the same order, then both files
fail to be read, or both have bindings with the same declarations, or both have none for the same
reason. -/
theorem declarations_reordered (name : String) (file : Path) {text text' : String}
    {items items' : List Json} (h : Item.Reorders items items')
    (ht : Json.parse? text = some (.array items))
    (ht' : Json.parse? text' = some (.array items')) :
    (Abi.parse text).bind (fun abi => (ofContract name file abi).declarations)
      = (Abi.parse text').bind (fun abi => (ofContract name file abi).declarations) := by
  rw [Abi.parse, Abi.parse, ht, ht']
  exact congrArg (Except.bind · _) (Abi.ofJson_reordered h)

/-- An event without parameters, as an item that is written as an array of its parts. -/
def plainEvent (name : String) : Json :=
  .array [.string "event", .string name, .array [], .bool false]

/-- The events `a_b` and `aB` ask for one class name; each gets the same name, whichever of the two
comes first. -/
theorem declarations_reordered_plainEvents :
    ∃ texts,
      (Abi.parse "[[\"event\",\"a_b\",[],false],[\"event\",\"aB\",[],false]]").bind
        (fun abi => (ofContract "Token" ⟨"token.json"⟩ abi).declarations) = .ok texts ∧
      (Abi.parse "[[\"event\",\"aB\",[],false],[\"event\",\"a_b\",[],false]]").bind
        (fun abi => (ofContract "Token" ⟨"token.json"⟩ abi).declarations) = .ok texts := by
  have swapped : Item.Reorders [plainEvent "a_b", plainEvent "aB"]
      [plainEvent "aB", plainEvent "a_b"] := by
    refine .swap (fun key h => ?_) [] []
    have first : Item.key? (plainEvent "a_b") = some ("event", "a_b") := by decide +kernel
    have second : Item.key? (plainEvent "aB") = some ("event", "aB") := by decide +kernel
    rw [first] at h
    rw [second, ← h]
    decide
  have parsed : Json.parse? "[[\"event\",\"a_b\",[],false],[\"event\",\"aB\",[],false]]"
      = some (.array [plainEvent "a_b", plainEvent "aB"]) := by cbv
  have parsed' : Json.parse? "[[\"event\",\"aB\",[],false],[\"event\",\"a_b\",[],false]]"
      = some (.array [plainEvent "aB", plainEvent "a_b"]) := by cbv
  rw [← declarations_reordered "Token" ⟨"token.json"⟩ swapped parsed parsed', Abi.parse, parsed]
  have declared : ((Abi.ofJson (.array [plainEvent "a_b", plainEvent "aB"])).bind
      fun abi => (ofContract "Token" ⟨"token.json"⟩ abi).declarations).toBool = true := by
    decide +kernel
  rcases h : (Abi.ofJson (.array [plainEvent "a_b", plainEvent "aB"])).bind
      fun abi => (ofContract "Token" ⟨"token.json"⟩ abi).declarations with e | texts
  · rw [h] at declared
    cases declared
  · exact ⟨texts, rfl, rfl⟩

end Interface

end Subgraph

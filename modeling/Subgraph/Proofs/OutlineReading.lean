import Mathlib.Data.List.Nodup
import Subgraph.Yaml.Reading
import Subgraph.Proofs.OutlineDocuments

/-!
# OutlineReading — reading the values of an outline

What the readers make of the node of an outline.  Nothing in it stands for another node
(`follow_node`), so that a reader that succeeds is one that just returns a value: a word is its text
(`text_word`), a list the values of its items (`list_list`), and a record gets the fields as they
are written (`record_mapping`).  Only a word without quotes may be missing (`optional_plain`).
-/

namespace Subgraph.Yaml.Reader

variable {α : Type} {room : Nat}

/-- No node of an outline stands for another one. -/
theorem follow_node (o : Outline) : Reading.follow o.node = pure o.node := by
  cases o <;> rfl

/-- A word is read as its text. -/
theorem text_word (isQuoted : Bool) (word : String) :
    text room (Outline.word isQuoted word).node = pure word := rfl

theorem natural_word {word : String} {n : Nat} (number : Scalar.natural? word.toList = some n)
    (small : n < twoTo 64) : natural room (Outline.word false word).node = pure n := by
  have held : (Scalar.natural? word.toList).filter (· < twoTo 64) = some n := by
    rw [number, Option.filter_some, if_pos (decide_eq_true small)]
  rw [natural, typed, follow_node, pure_bind]
  simp [Outline.node, Outline.style, held]

theorem fieldsNodes_eq_map (fields : List (String × Outline)) :
    Outline.fieldsNodes fields = fields.map fun f => (.scalar none .plain f.1, f.2.node) := by
  induction fields with
  | nil => rfl
  | cons field others ih => rw [Outline.fieldsNodes, ih]; rfl

theorem itemsNodes_eq_map (items : List Outline) :
    Outline.itemsNodes items = items.map Outline.node := by
  induction items with
  | nil => rfl
  | cons item others ih => rw [Outline.itemsNodes, ih]; rfl

theorem list_list (reader : Reader α) (items : List Outline) :
    list reader (room + 1) (Outline.list items).node =
      items.mapM fun item => reader room item.node := by
  have listed : list reader (room + 1) (Outline.list items).node =
      List.mapM (reader room) (Outline.itemsNodes items) := rfl
  rw [listed, itemsNodes_eq_map]
  exact List.mapM_map

theorem list_nothing (reader : Reader α) :
    list reader (room + 1) Outline.nothing.node = pure [] := rfl

theorem fields_mapping (fs : List (String × Outline)) :
    fields (room + 1) (Outline.mapping fs).node =
      pure ⟨room, fs.map fun f => (f.1, f.2.node)⟩ := by
  have read : fields (room + 1) (Outline.mapping fs).node = (do
      return ⟨room, ← (Outline.fieldsNodes fs).mapM fun f => do
        return (← text room f.1, f.2)⟩) := rfl
  have entries : (fs.mapM fun f => (do return (← text room (.scalar none .plain f.1), f.2.node) :
      Reading (String × Node))) = pure (fs.map fun f => (f.1, f.2.node)) :=
    List.mapM_pure
  rw [read, fieldsNodes_eq_map, List.mapM_map]
  exact (congrArg (· >>= _) entries).trans (pure_bind _ _)

/-- Among fields with different keys each key is there once at most. -/
theorem length_filter_le {β : Type} {fs : List (String × β)} (once : (fs.map Prod.fst).Nodup)
    (key : String) : (fs.filter (·.1 == key)).length ≤ 1 := by
  have counted : (fs.filter (·.1 == key)).length = (fs.map Prod.fst).count key := by
    rw [List.count, List.countP_map, List.countP_eq_length_filter]
    rfl
  rw [counted]
  exact List.nodup_iff_count_le_one.mp once key

/-- A record reads the fields of an outline, if no key comes twice. -/
theorem record_mapping {keys : List String} {read : Fields → Reading α}
    {fs : List (String × Outline)} (once : (fs.map Prod.fst).Nodup) :
    record keys read (room + 1) (Outline.mapping fs).node =
      read ⟨room, fs.map fun f => (f.1, f.2.node)⟩ := by
  have once : ((fs.map fun f => (f.1, f.2.node)).map Prod.fst).Nodup := by
    rwa [List.map_map]
  have unique : (keys.all fun key =>
      ((fs.map fun f => (f.1, f.2.node)).filter (·.1 == key)).length ≤ 1) = true :=
    List.all_eq_true.mpr fun key _ => decide_eq_true (length_filter_le once key)
  have recorded : record keys read (room + 1) (Outline.mapping fs).node = (do
      let fields ← fields (room + 1) (Outline.mapping fs).node
      guard (keys.all fun key => (fields.entries.filter (·.1 == key)).length ≤ 1)
      read fields) := rfl
  rw [recorded, fields_mapping, pure_bind]
  simp only [unique]
  exact pure_bind _ _

/-! ### Values that may be missing -/

/-- A word in quotes is never missing. -/
theorem optional_quoted (reader : Reader α) (word : String) :
    reader.optional room (Outline.word true word).node =
      some <$> reader room (Outline.word true word).node := rfl

/-- A word without quotes is missing if it says so. -/
theorem optional_plain (reader : Reader α) (word : String) :
    reader.optional room (Outline.word false word).node =
      if word = "" ∨ Scalar.isNullWord word = true then pure none
      else some <$> reader room (Outline.word false word).node := by
  have read : reader.optional room (Outline.word false word).node =
      if (word = "" || Scalar.isNullWord word) = true then pure none
      else some <$> reader room (Outline.word false word).node := rfl
  rw [read]
  simp only [Bool.or_eq_true, decide_eq_true_eq]

/-! ### Values of any type -/

theorem generic_word {word : String} {value : Value} (h : Scalar.plain? word = some value) :
    generic room (Outline.word false word).node = pure value := by
  rw [generic, follow_node, pure_bind]
  simp only [Outline.node, Outline.style, Scalar.value?, h]
  rfl

theorem generic_nothing : generic (room + 1) Outline.nothing.node = pure (.sequence []) := by
  rw [generic]
  rfl

theorem generic_item {item : Outline} {value : Value}
    (h : generic room item.node = pure value) :
    generic (room + 1) (Outline.list [item]).node = pure (.sequence [value]) := by
  rw [generic, follow_node, pure_bind]
  simp [Outline.node, Outline.itemsNodes, h]

theorem generic_field {key : String} {item : Outline} {name value : Value}
    (hkey : Scalar.plain? key = some name) (h : generic room item.node = pure value) :
    generic (room + 1) (Outline.mapping [(key, item)]).node = pure (.mapping [(name, value)]) := by
  have named : generic room (.scalar none .plain key) = pure name := generic_word hkey
  rw [generic, follow_node, pure_bind]
  simp [Outline.node, Outline.fieldsNodes, h, named, Value.distinctKeys]

end Subgraph.Yaml.Reader

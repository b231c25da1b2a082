import Mathlib.Data.Option.Basic
import Subgraph.Yaml.Reading

/-!
# Exchanges — one node of a document for another

Two documents that are alike but for one node are read alike but for what is read of that node.
`Alike` relates two readings of one document: if the other node is legible, then both fail, or both
make something and what they make is related; if it is not, then the second reading fails.  The
relation goes from the node outwards: through a field of a record (`Alike.record`), and an item of a
list (`Alike.list`).
-/

namespace Subgraph.Yaml

/-! ### Gaps -/

/-- A mapping in which one field is left open: the text of its key, and its value. -/
structure FieldGap where
  tag? : Option TagText := none
  before : List (Node × Node) := []
  keyTag? : Option TagText := none
  keyStyle : ScalarStyle := .plain
  after : List (Node × Node) := []

/-- A sequence in which one item is left open. -/
structure ItemGap where
  tag? : Option TagText := none
  before : List Node := []
  after : List Node := []

def FieldGap.fill (gap : FieldGap) (key : String) (value : Node) : Node :=
  .mapping gap.tag? (gap.before ++ (.scalar gap.keyTag? gap.keyStyle key, value) :: gap.after)

def ItemGap.fill (gap : ItemGap) (item : Node) : Node :=
  .sequence gap.tag? (gap.before ++ item :: gap.after)

namespace Node

theorem sizeOfFields_append (fields others : List (Node × Node)) :
    sizeOfFields (fields ++ others) = sizeOfFields fields + sizeOfFields others := by
  induction fields with
  | nil => exact (Nat.zero_add _).symm
  | cons field fields ih =>
      rw [List.cons_append, sizeOfFields, ih, sizeOfFields]
      simp only [Nat.add_assoc]

theorem sizeOfItems_append (items others : List Node) :
    sizeOfItems (items ++ others) = sizeOfItems items + sizeOfItems others := by
  induction items with
  | nil => exact (Nat.zero_add _).symm
  | cons item items ih => rw [List.cons_append, sizeOfItems, ih, sizeOfItems, Nat.add_assoc]

theorem size_fillField (gap : FieldGap) (key : String) {n n' : Node} (h : n.size = n'.size) :
    (gap.fill key n).size = (gap.fill key n').size := by
  simp only [FieldGap.fill, size, sizeOfFields_append, sizeOfFields, h]

theorem size_fillItem (gap : ItemGap) {n n' : Node} (h : n.size = n'.size) :
    (gap.fill n).size = (gap.fill n').size := by
  simp only [ItemGap.fill, size, sizeOfItems_append, sizeOfItems, h]

end Node

namespace Reading

variable {α β γ : Type} {legible : Prop} {R : α → α → Prop} {S : β → β → Prop}

/-! ### Single readings -/

/-- What a reading makes has a property, if it makes anything. -/
def Makes (x : Reading α) (P : α → Prop) : Prop :=
  ∀ d n a m, (x.run d).run n = some (a, m) → P a

theorem run_bind (x : Reading α) (f : α → Reading β) (d : Document) (n : Nat) :
    ((x >>= f).run d).run n = ((x.run d).run n).bind fun r => ((f r.1).run d).run r.2 := rfl

theorem makes_trivial (x : Reading α) : Makes x fun _ => True := fun _ _ _ _ _ => trivial

theorem makes_pure {a : α} {P : α → Prop} (h : P a) : Makes (pure a) P := by
  rintro d n b m ⟨⟩
  exact h

theorem makes_bind {x : Reading α} {f : α → Reading β} {P : α → Prop} {Q : β → Prop}
    (first : Makes x P) (next : ∀ a, P a → Makes (f a) Q) : Makes (x >>= f) Q := by
  intro d n b m run
  rw [run_bind] at run
  obtain ⟨r, began, ended⟩ := Option.bind_eq_some_iff.mp run
  exact next r.1 (first d n r.1 r.2 began) d r.2 b m ended

/-- Something is made of each item. -/
theorem makes_mapM (f : γ → Reading α) (items : List γ) :
    Makes (items.mapM f) fun made => made.length = items.length := by
  induction items with
  | nil => exact makes_pure rfl
  | cons item items ih =>
      rw [List.mapM_cons]
      refine makes_bind (makes_trivial (f item)) fun a _ => makes_bind ih fun others length => ?_
      exact makes_pure (by rw [List.length_cons, List.length_cons, length])

/-! ### Readings that look at anchors only -/

/-- A reading looks at the anchors of a document only. -/
def IsLocal (x : Reading α) : Prop := ∀ d d', d.anchors = d'.anchors → x.run d = x.run d'

namespace IsLocal

protected theorem pure (a : α) : IsLocal (pure a) := fun _ _ _ => rfl

protected theorem failure : IsLocal (failure : Reading α) := fun _ _ _ => rfl

protected theorem bind {x : Reading α} {f : α → Reading β} (first : IsLocal x)
    (next : ∀ a, IsLocal (f a)) : IsLocal (x >>= f) := by
  intro d d' same
  rw [ReaderT.run_bind, ReaderT.run_bind, first d d' same]
  exact congrArg _ (funext fun a => next a d d' same)

theorem mapM {f : γ → Reading α} (h : ∀ c, IsLocal (f c)) (items : List γ) :
    IsLocal (items.mapM f) := by
  induction items with
  | nil => exact .pure []
  | cons item items ih =>
      rw [List.mapM_cons]
      exact .bind (h item) fun a => .bind ih fun others => .pure (a :: others)

protected theorem guard (p : Prop) [Decidable p] : IsLocal (guard p : Reading Unit) := by
  rw [guard]
  split
  · exact .pure ()
  · exact .failure

theorem follow (n : Node) : IsLocal (follow n) := by
  cases n with
  | «alias» anchor =>
      have counted : IsLocal (get : Reading Nat) := fun _ _ _ => rfl
      refine .bind counted fun aliases => .bind (.guard _) fun _ => ?_
      have spent : IsLocal (set (aliases - 1) : Reading PUnit) := fun _ _ _ => rfl
      refine .bind spent fun _ => ?_
      intro d d' same
      have found : d.target? anchor = d'.target? anchor := by
        rw [Document.target?, same, ← Document.target?]
      have asked (d : Document) : (read : Reading Document).run d = pure d := rfl
      rw [ReaderT.run_bind, ReaderT.run_bind, asked, asked, pure_bind, pure_bind, found]
      cases d'.target? anchor <;> rfl
  | scalar tag? style text => exact .pure _
  | sequence tag? items => exact .pure _
  | mapping tag? fields => exact .pure _

end IsLocal

/-! ### Readings that are alike -/

/-- Two readings of a document make what is related, and leave as many aliases to follow. -/
def Alike (legible : Prop) (R : α → α → Prop) (x y : Reading α) : Prop :=
  ∀ d n,
    (legible →
      Option.Rel (fun a b => R a.1 b.1 ∧ a.2 = b.2) ((x.run d).run n) ((y.run d).run n)) ∧
    (¬ legible → (y.run d).run n = none)

namespace Alike

protected theorem pure {a b : α} (yes : legible) (h : R a b) : Alike legible R (pure a) (pure b) :=
  fun _ _ => ⟨fun _ => .some ⟨h, rfl⟩, fun no => absurd yes no⟩

protected theorem failure : Alike legible R failure failure :=
  fun _ _ => ⟨fun _ => .none, fun _ => rfl⟩

theorem of_illegible (no : ¬ legible) (x : Reading α) : Alike legible R x failure :=
  fun _ _ => ⟨fun yes => absurd yes no, fun _ => rfl⟩

/-- What goes on alike after what is alike. -/
theorem bind_left {x y : Reading α} {f g : α → Reading β} (h : Alike legible R x y)
    (next : ∀ a b, R a b → Alike True S (f a) (g b)) : Alike legible S (x >>= f) (y >>= g) := by
  intro d n
  rw [run_bind, run_bind]
  refine ⟨fun yes => ?_, fun no => ?_⟩
  · have made := (h d n).1 yes
    generalize (x.run d).run n = first, (y.run d).run n = second at made
    cases made with
    | none => exact .none
    | some related =>
        obtain ⟨related, same⟩ := related
        rw [Option.bind_some, Option.bind_some, ← same]
        exact (next _ _ related d _).1 trivial
  · rw [(h d n).2 no]
    rfl

/-- What goes on alike after one and the same. -/
theorem bind_right {x : Reading γ} {f g : γ → Reading β} {P : γ → Prop} (made : Makes x P)
    (next : ∀ c, P c → Alike legible S (f c) (g c)) : Alike legible S (x >>= f) (x >>= g) := by
  intro d n
  rw [run_bind, run_bind]
  cases h : (x.run d).run n with
  | none => exact ⟨fun _ => .none, fun _ => rfl⟩
  | some r => exact next r.1 (made d n r.1 r.2 h) d r.2

theorem bind_same {x : Reading γ} {f g : γ → Reading β} (next : ∀ c, Alike legible S (f c) (g c)) :
    Alike legible S (x >>= f) (x >>= g) :=
  bind_right (makes_trivial x) fun c _ => next c

theorem mono {R' : α → α → Prop} {x y : Reading α} (h : Alike legible R x y)
    (weaker : ∀ a b, R a b → R' a b) : Alike legible R' x y := by
  refine fun d n => ⟨fun yes => ?_, (h d n).2⟩
  have made := (h d n).1 yes
  generalize (x.run d).run n = first, (y.run d).run n = second at made
  cases made with
  | none => exact .none
  | some related => exact .some ⟨weaker _ _ related.1, related.2⟩

end Alike

end Reading

namespace Reader

open Reading

variable {α : Type} {legible : Prop} {R : α → α → Prop}

/-! ### Records -/

theorem lookup_of_ne {key other : String} (h : other ≠ key) (before after : List (String × Node))
    (n : Node) : (before ++ (key, n) :: after).lookup other = (before ++ after).lookup other := by
  rw [List.lookup_append, List.lookup_append, List.lookup_cons, beq_eq_false_iff_ne.mpr h]

theorem lookup_of_notMem {key : String} {before : List (String × Node)}
    (h : key ∉ before.map Prod.fst) (after : List (String × Node)) (n : Node) :
    (before ++ (key, n) :: after).lookup key = some n := by
  have absent : before.lookup key = none := by
    rw [List.lookup_eq_none_iff]
    exact fun field hf => bne_iff_ne.mpr fun same => h (same ▸ List.mem_map_of_mem hf)
  rw [List.lookup_append, absent, List.lookup_cons_self]
  rfl

/-- The text of the key of a field, and its value. -/
def field (room : Nat) : Node × Node → Reading (String × Node) := fun (key, value) => do
  return (← text room key, value)

/-- The keys of a record come at most once each. -/
def isOnce (keys : List String) (fields : List (String × Node)) : Bool :=
  keys.all fun key => (fields.filter (·.1 == key)).length ≤ 1

theorem isOnce_congr (keys : List String) (key : String) (before after : List (String × Node))
    (n n' : Node) :
    isOnce keys (before ++ (key, n) :: after) = isOnce keys (before ++ (key, n') :: after) := by
  have same (k : String) : ((before ++ (key, n) :: after).filter (·.1 == k)).length =
      ((before ++ (key, n') :: after).filter (·.1 == k)).length := by
    rw [List.filter_append, List.filter_append, List.filter_cons, List.filter_cons]
    split <;> simp
  simp only [isOnce, same]

/-- A key of the record is not there before. -/
theorem notMem_of_isOnce {keys : List String} {key : String} (listed : key ∈ keys)
    {before after : List (String × Node)} {n : Node}
    (once : isOnce keys (before ++ (key, n) :: after) = true) : key ∉ before.map Prod.fst := by
  intro mem
  obtain ⟨field, hf, same⟩ := List.mem_map.mp mem
  have found : field ∈ before.filter (·.1 == key) := List.mem_filter.mpr ⟨hf, by simp [same]⟩
  have first : 0 < (before.filter (·.1 == key)).length := List.length_pos_of_mem found
  have most := of_decide_eq_true (List.all_eq_true.mp once key listed)
  rw [List.filter_append, List.filter_cons_of_pos (by simp), List.length_append,
    List.length_cons] at most
  omega

theorem record_fill {keys : List String} {read : Fields → Reading α} {room : Nat} (gap : FieldGap)
    (key : String) (n : Node) : record keys read (room + 1) (gap.fill key n) = (do
      let before ← gap.before.mapM (field room)
      let after ← gap.after.mapM (field room)
      guard (isOnce keys (before ++ (key, n) :: after))
      read ⟨room, before ++ (key, n) :: after⟩) := by
  have recorded : record keys read (room + 1) (gap.fill key n) = ((do
      return ⟨room, ← (gap.before ++
        (.scalar gap.keyTag? gap.keyStyle key, n) :: gap.after).mapM (field room)⟩) >>=
      fun fields : Fields => do
        guard (isOnce keys fields.entries)
        read fields) := rfl
  have named : field room (.scalar gap.keyTag? gap.keyStyle key, n) = pure (key, n) := rfl
  rw [recorded, List.mapM_append, List.mapM_cons, named]
  simp only [bind_assoc, pure_bind]

/-- **Through a field of a record.** -/
theorem alike_record {keys : List String} {read : Fields → Reading α} (gap : FieldGap)
    {key : String} {n n' : Node} (listed : key ∈ keys)
    (next : ∀ room before after, key ∉ before.map Prod.fst →
      Alike legible R (read ⟨room, before ++ (key, n) :: after⟩)
        (read ⟨room, before ++ (key, n') :: after⟩)) (room : Nat) :
    Alike legible R (record keys read room (gap.fill key n))
      (record keys read room (gap.fill key n')) := by
  cases room with
  | zero => exact .failure
  | succ room =>
      rw [record_fill, record_fill]
      refine .bind_same fun before => .bind_same fun after => ?_
      rw [← isOnce_congr keys key before after n n']
      cases once : isOnce keys (before ++ (key, n) :: after) with
      | false => exact .failure
      | true => exact next room before after (notMem_of_isOnce listed once)

namespace Fields

variable {key other : String} {room : Nat} {before after : List (String × Node)} {n : Node}

/-! Of the fields around the one that was open. -/

theorem withDefault_of_ne (h : other ≠ key) (default : α) (reader : Reader α) :
    withDefault ⟨room, before ++ (key, n) :: after⟩ other default reader =
      withDefault ⟨room, before ++ after⟩ other default reader := by
  rw [withDefault, lookup_of_ne h]
  rfl

theorem optional_of_ne (h : other ≠ key) (reader : Reader α) :
    optional ⟨room, before ++ (key, n) :: after⟩ other reader =
      optional ⟨room, before ++ after⟩ other reader :=
  withDefault_of_ne h none reader.optional

theorem required_of_ne (h : other ≠ key) (reader : Reader α) :
    required ⟨room, before ++ (key, n) :: after⟩ other reader =
      required ⟨room, before ++ after⟩ other reader := by
  rw [required, lookup_of_ne h]
  rfl

theorem others_of_mem {keys : List String} (listed : key ∈ keys) :
    others ⟨room, before ++ (key, n) :: after⟩ keys = others ⟨room, before ++ after⟩ keys := by
  have known : (before ++ (key, n) :: after).filter (fun field => !keys.contains field.1) =
      (before ++ after).filter fun field => !keys.contains field.1 := by
    rw [List.filter_append, List.filter_append, List.filter_cons_of_neg (by simpa using listed)]
  simp only [others, known]

/-! Of that field itself. -/

theorem withDefault_of_notMem (h : key ∉ before.map Prod.fst) (default : α) (reader : Reader α) :
    withDefault ⟨room, before ++ (key, n) :: after⟩ key default reader = reader room n := by
  rw [withDefault, lookup_of_notMem h]

theorem required_of_notMem (h : key ∉ before.map Prod.fst) (reader : Reader α) :
    required ⟨room, before ++ (key, n) :: after⟩ key reader = reader room n := by
  rw [required, lookup_of_notMem h]

end Fields

/-! ### Lists -/

/-- **Through an item of a list.** -/
theorem alike_list {reader : Reader α} (gap : ItemGap) {n n' : Node}
    (h : ∀ room, Alike legible R (reader room n) (reader room n')) (room : Nat) :
    Alike legible
      (fun made made' => ∃ before a b after, before.length = gap.before.length ∧
        made = before ++ a :: after ∧ made' = before ++ b :: after ∧ R a b)
      (list reader room (gap.fill n)) (list reader room (gap.fill n')) := by
  cases room with
  | zero => exact .failure
  | succ room =>
      have listed (n : Node) : list reader (room + 1) (gap.fill n) = (do
          let before ← gap.before.mapM (reader room)
          let item ← reader room n
          let after ← gap.after.mapM (reader room)
          return before ++ item :: after) := by
        have read : list reader (room + 1) (gap.fill n) =
            (gap.before ++ n :: gap.after).mapM (reader room) := rfl
        rw [read, List.mapM_append, List.mapM_cons]
        simp only [bind_assoc, pure_bind]
      rw [listed, listed]
      refine .bind_right (makes_mapM _ _) fun before length =>
        .bind_left (h room) fun a b related => .bind_same fun after => ?_
      exact .pure trivial ⟨before, a, b, after, length, rfl, rfl, related⟩

/-! ### Readers that look at anchors only -/

/-- A reader looks at the anchors of a document only. -/
def IsLocal (reader : Reader α) : Prop := ∀ room n, Reading.IsLocal (reader room n)

theorem isLocal_text : text.IsLocal := by
  refine fun _ n => .bind (.follow n) fun n => ?_
  cases n <;> first | exact .pure _ | exact .failure

theorem isLocal_typed (type : Scalar.CoreType) (parse? : String → Option α) :
    (typed type parse?).IsLocal := by
  refine fun _ n => .bind (.follow n) fun n => ?_
  cases n with
  | scalar tag? style text =>
      refine .bind (.guard _) fun _ => ?_
      cases parse? text <;> first | exact .pure _ | exact .failure
  | «alias» anchor => exact .failure
  | sequence tag? items => exact .failure
  | mapping tag? fields => exact .failure

theorem isLocal_generic : generic.IsLocal := by
  intro room
  induction room with
  | zero =>
      intro n
      rw [generic]
      refine .bind (.follow n) fun n => ?_
      cases n with
      | «alias» anchor => exact .failure
      | scalar tag? style text =>
          dsimp only
          cases Scalar.value? tag? style text <;> first | exact .pure _ | exact .failure
      | sequence tag? items => exact .bind (.guard _) fun _ => .failure
      | mapping tag? fields => exact .bind (.guard _) fun _ => .failure
  | succ room ih =>
      intro n
      rw [generic]
      refine .bind (.follow n) fun n => ?_
      cases n with
      | «alias» anchor => exact .failure
      | scalar tag? style text =>
          dsimp only
          cases Scalar.value? tag? style text <;> first | exact .pure _ | exact .failure
      | sequence tag? items =>
          exact .bind (.guard _) fun _ => .bind (.mapM ih items) fun _ => .pure _
      | mapping tag? fields =>
          refine .bind (.guard _) fun _ => .bind (.mapM (fun field => ?_) fields) fun _ =>
            .bind (.guard _) fun _ => .pure _
          exact .bind (ih field.1) fun _ => .bind (ih field.2) fun _ => .pure _

theorem isLocal_optional {reader : Reader α} (h : reader.IsLocal) : reader.optional.IsLocal := by
  refine fun room n => .bind (.follow n) fun n => ?_
  have next (absent : Bool) : Reading.IsLocal
      (if absent = true then pure none else do return some (← reader room n)) := by
    cases absent with
    | true => exact .pure none
    | false => exact .bind (h room n) fun _ => .pure _
  cases n with
  | scalar tag? style text =>
      dsimp only
      cases isAbsent? tag? style text with
      | none => exact .bind .failure next
      | some absent => exact .bind (.pure absent) next
  | «alias» anchor => exact .bind (.pure false) next
  | sequence tag? items => exact .bind (.pure false) next
  | mapping tag? fields => exact .bind (.pure false) next

/-- What is done with a node that should be a container, but may be void. -/
theorem isLocal_void (n : Node) (a : α) :
    Reading.IsLocal (if isVoid n then pure a else failure) := by
  split
  · exact .pure a
  · exact .failure

theorem isLocal_list {reader : Reader α} (h : reader.IsLocal) : (list reader).IsLocal := by
  refine fun room n => .bind (.follow n) fun n => ?_
  cases n with
  | sequence tag? items =>
      cases room with
      | zero => exact .failure
      | succ room => exact .mapM (h room) items
  | «alias» anchor => exact isLocal_void _ _
  | scalar tag? style text => exact isLocal_void _ _
  | mapping tag? fields => exact isLocal_void _ _

theorem isLocal_fields : fields.IsLocal := by
  refine fun room n => .bind (.follow n) fun n => ?_
  cases n with
  | mapping tag? fields =>
      cases room with
      | zero => exact .failure
      | succ room =>
          refine .bind (.mapM (fun field => ?_) fields) fun _ => .pure _
          exact .bind (isLocal_text room field.1) fun _ => .pure _
  | «alias» anchor => exact isLocal_void _ _
  | scalar tag? style text => exact isLocal_void _ _
  | sequence tag? items => exact isLocal_void _ _

theorem isLocal_record {keys : List String} {read : Fields → Reading α}
    (h : ∀ fields, Reading.IsLocal (read fields)) : (record keys read).IsLocal :=
  fun room n => .bind (isLocal_fields room n) fun fields => .bind (.guard _) fun _ => h fields

namespace Fields

theorem isLocal_withDefault {reader : Reader α} (h : reader.IsLocal) (fields : Fields)
    (key : String) (default : α) : Reading.IsLocal (fields.withDefault key default reader) := by
  rw [withDefault]
  split
  · exact h _ _
  · exact .pure default

theorem isLocal_optional {reader : Reader α} (h : reader.IsLocal) (fields : Fields)
    (key : String) : Reading.IsLocal (fields.optional key reader) :=
  fields.isLocal_withDefault (Reader.isLocal_optional h) key none

theorem isLocal_required {reader : Reader α} (h : reader.IsLocal) (fields : Fields)
    (key : String) : Reading.IsLocal (fields.required key reader) := by
  rw [required]
  split
  · exact h _ _
  · exact .failure

theorem isLocal_others (fields : Fields) (keys : List String) :
    Reading.IsLocal (fields.others keys) :=
  .bind (.mapM (fun _ => .bind (isLocal_generic _ _) fun _ => .pure _) _) fun _ => .pure _

end Fields

/-! ### Whole texts -/

/-- **Through a whole text.** -/
theorem alike_parse? {reader : Reader α} (loc : reader.IsLocal) {t t' : String} {n n' : Node}
    {anchors : List (Nat × Node)} (h : Document.parse? t = some ⟨some n, anchors⟩)
    (h' : Document.parse? t' = some ⟨some n', anchors⟩) (size : n.size = n'.size)
    (alike : Alike legible R (reader maxDepth n) (reader maxDepth n')) :
    (legible → Option.Rel R (Reader.parse? reader t) (Reader.parse? reader t')) ∧
      (¬ legible → Reader.parse? reader t' = none) := by
  have run : Reader.parse? reader t =
      (((reader maxDepth n).run ⟨some n, anchors⟩).run (aliasesPerPart * n.size)).map (·.1) := by
    rw [Reader.parse?, h]
    rfl
  have run' : Reader.parse? reader t' =
      (((reader maxDepth n').run ⟨some n, anchors⟩).run (aliasesPerPart * n.size)).map (·.1) := by
    rw [Reader.parse?, h', size, loc maxDepth n' ⟨some n, anchors⟩ ⟨some n', anchors⟩ rfl]
    rfl
  obtain ⟨yes, no⟩ := alike ⟨some n, anchors⟩ (aliasesPerPart * n.size)
  rw [run, run']
  refine ⟨fun legible => ?_, fun illegible => ?_⟩
  · have made := yes legible
    generalize ((reader maxDepth n).run _).run _ = first, ((reader maxDepth n').run _).run _ = second
      at made
    cases made with
    | none => exact .none
    | some related => exact .some related.1
  · rw [no illegible]
    rfl

end Reader

end Subgraph.Yaml

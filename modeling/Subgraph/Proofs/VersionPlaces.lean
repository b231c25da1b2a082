import Subgraph.Proofs.Exchanges
import Subgraph.Proofs.OutlineDocuments
import Subgraph.Proofs.Versions

/-!
# VersionPlaces — versions in quotes and without

A manifest has a version of its own, and each mapping has one.  Two manifests that are alike but for
the quotes of one version are read to the same value, if nothing is lost of the version without
quotes (`parse_unquoted`).
-/

namespace Subgraph

open Yaml Yaml.Reader Yaml.Reading

namespace Manifest

/-! ### Places of versions -/

/-- The lists of entries that a manifest has. -/
inductive EntryList where
  | dataSources
  | templates

namespace EntryList

def key : EntryList → String
  | .dataSources => "dataSources"
  | .templates => "templates"

def entries : EntryList → Manifest → List Entry
  | .dataSources, m => m.dataSources
  | .templates, m => m.templates

/-- The manifest with another list of entries. -/
def replace : EntryList → List Entry → Manifest → Manifest
  | .dataSources, entries, m => { m with dataSources := entries }
  | .templates, entries, m => { m with templates := entries }

end EntryList

/-- A place where a version stands, in a document that is left open there. -/
inductive VersionPlace where
  /-- The version of the manifest. -/
  | specification (root : FieldGap)
  /-- The version in the mapping of an entry. -/
  | mapping (list : EntryList) (root : FieldGap) (entries : ItemGap) (entry fields : FieldGap)

namespace VersionPlace

/-- The root of the document with a version in its place. -/
def fill : VersionPlace → Node → Node
  | .specification root, n => root.fill "specVersion" n
  | .mapping list root entries entry fields, n =>
    root.fill list.key (entries.fill (entry.fill "mapping" (fields.fill "apiVersion" n)))

/-- The version that a manifest has in a place. -/
def version? : VersionPlace → Manifest → Option String
  | .specification _, m => m.specVersion?
  | .mapping list _ entries _ _, m => do
    (← (list.entries m)[entries.before.length]?).mapping.apiVersion?

/-- The manifest with another version in a place. -/
def withVersion : VersionPlace → String → Manifest → Manifest
  | .specification _, version, m => { m with specVersion? := some version }
  | .mapping list _ entries _ _, version, m =>
    list.replace ((list.entries m).modify entries.before.length fun e =>
      { e with mapping := { e.mapping with apiVersion? := some version } }) m

end VersionPlace

/-! ### Readings that are alike -/

section

variable {legible : Prop} {n n' : Node}

theorem alike_readMapping {R : Option String → Option String → Prop} (gap : FieldGap)
    (h : ∀ room, Alike legible R (readVersion room n) (readVersion room n')) (room : Nat) :
    Alike legible
      (fun m m' => R m.apiVersion? m'.apiVersion? ∧ m' = { m with apiVersion? := m'.apiVersion? })
      (readMapping room (gap.fill "apiVersion" n)) (readMapping room (gap.fill "apiVersion" n')) := by
  refine alike_record gap (by decide) (fun room before after fresh => ?_) room
  simp (disch := decide) only [Fields.optional_of_ne, Fields.withDefault_of_ne,
    Fields.withDefault_of_notMem fresh, Fields.others_of_mem]
  refine .bind_same fun _ => .bind_left (h room) fun a b versions => ?_
  exact .bind_same fun _ => .bind_same fun _ => .bind_same fun _ => .bind_same fun _ =>
    .bind_same fun _ => .pure trivial ⟨versions, rfl⟩

theorem alike_readEntry {R : Mapping → Mapping → Prop} (gap : FieldGap)
    (h : ∀ room, Alike legible R (readMapping room n) (readMapping room n')) (room : Nat) :
    Alike legible (fun e e' => R e.mapping e'.mapping ∧ e' = { e with mapping := e'.mapping })
      (readEntry room (gap.fill "mapping" n)) (readEntry room (gap.fill "mapping" n')) := by
  refine alike_record gap (by decide) (fun room before after fresh => ?_) room
  simp (disch := decide) only [Fields.optional_of_ne, Fields.withDefault_of_ne,
    Fields.required_of_ne, Fields.required_of_notMem fresh]
  refine .bind_same fun _ => .bind_same fun _ => .bind_same fun _ => .bind_same fun _ => ?_
  exact .bind_left (h room) fun a b mappings => .pure trivial ⟨mappings, rfl⟩

theorem alike_reader_specVersion {R : Option String → Option String → Prop} (gap : FieldGap)
    (h : ∀ room, Alike legible R (readVersion room n) (readVersion room n')) (room : Nat) :
    Alike legible
      (fun m m' => R m.specVersion? m'.specVersion? ∧
        m' = { m with specVersion? := m'.specVersion? })
      (reader room (gap.fill "specVersion" n)) (reader room (gap.fill "specVersion" n')) := by
  refine alike_record gap (by decide) (fun room before after fresh => ?_) room
  simp (disch := decide) only [Fields.optional_of_ne, Fields.withDefault_of_ne,
    Fields.withDefault_of_notMem fresh]
  refine .bind_left (h room) fun a b versions => ?_
  exact .bind_same fun _ => .bind_same fun _ => .bind_same fun _ => .bind_same fun _ =>
    .pure trivial ⟨versions, rfl⟩

theorem alike_reader_entries {R : List Entry → List Entry → Prop} (l : EntryList) (gap : FieldGap)
    (h : ∀ room, Alike legible R (list readEntry room n) (list readEntry room n')) (room : Nat) :
    Alike legible
      (fun m m' => R (l.entries m) (l.entries m') ∧ m' = l.replace (l.entries m') m)
      (reader room (gap.fill l.key n)) (reader room (gap.fill l.key n')) := by
  refine alike_record gap (by cases l <;> decide) (fun room before after fresh => ?_) room
  cases l with
  | dataSources =>
      have fresh : "dataSources" ∉ before.map Prod.fst := fresh
      simp (disch := decide) only [EntryList.key, Fields.optional_of_ne, Fields.withDefault_of_ne,
        Fields.withDefault_of_notMem fresh]
      exact .bind_same fun _ => .bind_same fun _ => .bind_same fun _ =>
        .bind_left (h room) fun a b entries => .bind_same fun _ => .pure trivial ⟨entries, rfl⟩
  | templates =>
      have fresh : "templates" ∉ before.map Prod.fst := fresh
      simp (disch := decide) only [EntryList.key, Fields.optional_of_ne, Fields.withDefault_of_ne,
        Fields.withDefault_of_notMem fresh]
      exact .bind_same fun _ => .bind_same fun _ => .bind_same fun _ => .bind_same fun _ =>
        .bind_left (h room) fun a b entries => .pure trivial ⟨entries, rfl⟩

end

/-- **Only the version in the place differs.** -/
theorem alike_fill {legible : Prop} {v v' : String} {n n' : Node} (place : VersionPlace)
    (h : ∀ room, Alike legible (fun a b => a = some v ∧ b = some v') (readVersion room n)
      (readVersion room n')) (room : Nat) :
    Alike legible (fun m m' => place.version? m = some v ∧ m' = place.withVersion v' m)
      (reader room (place.fill n)) (reader room (place.fill n')) := by
  cases place with
  | specification root =>
      refine (alike_reader_specVersion root h room).mono fun m m' same => ?_
      obtain ⟨⟨version, version'⟩, rest⟩ := same
      exact ⟨version, by rw [rest, version']; rfl⟩
  | mapping l root entries entry fields =>
      have read := alike_reader_entries l root
        (alike_list entries (alike_readEntry entry (alike_readMapping fields h))) room
      refine read.mono fun m m' same => ?_
      obtain ⟨⟨before, e, e', after, length, listed, listed', ⟨⟨version, version'⟩, mapping⟩, entry⟩,
        rest⟩ := same
      have found : (l.entries m)[entries.before.length]? = some e := by
        rw [listed, ← length]
        simp
      refine ⟨?_, ?_⟩
      · rw [VersionPlace.version?, found]
        exact version
      · have changed : { e with mapping := { e.mapping with apiVersion? := some v' } } = e' := by
          rw [entry, mapping, version']
        rw [rest, VersionPlace.withVersion, listed', listed, ← length]
        simp [List.modify_eq_take_cons_drop, changed]

/-! ### Readers that look at anchors only -/

theorem isLocal_readPath : readPath.IsLocal := fun room n =>
  .bind (isLocal_text room n) fun _ => .pure _

theorem isLocal_readVersion : readVersion.IsLocal := by
  refine fun room n => .bind (isLocal_optional isLocal_generic room n) fun value? => ?_
  rcases value? with _ | (_ | _ | _ | _ | _ | _) <;> first | exact .pure _ | exact .failure

theorem isLocal_readAbi : readAbi.IsLocal :=
  isLocal_record fun fields => .bind (fields.isLocal_required isLocal_text _) fun _ =>
    .bind (fields.isLocal_required isLocal_readPath _) fun _ => .pure _

theorem isLocal_readSource : readSource.IsLocal :=
  isLocal_record fun fields => .bind (fields.isLocal_optional isLocal_text _) fun _ =>
    .bind (fields.isLocal_optional isLocal_text _) fun _ =>
    .bind (fields.isLocal_optional isLocal_text _) fun _ =>
    .bind (fields.isLocal_optional (isLocal_typed _ _) _) fun _ => .pure _

theorem isLocal_readMapping : readMapping.IsLocal :=
  isLocal_record fun fields => .bind (fields.isLocal_optional isLocal_text _) fun _ =>
    .bind (fields.isLocal_withDefault isLocal_readVersion _ _) fun _ =>
    .bind (fields.isLocal_optional isLocal_text _) fun _ =>
    .bind (fields.isLocal_withDefault (isLocal_list isLocal_text) _ _) fun _ =>
    .bind (fields.isLocal_withDefault (isLocal_list isLocal_readAbi) _ _) fun _ =>
    .bind (fields.isLocal_optional isLocal_readPath _) fun _ =>
    .bind (fields.isLocal_others _) fun _ => .pure _

theorem isLocal_readEntry : readEntry.IsLocal :=
  isLocal_record fun fields => .bind (fields.isLocal_required isLocal_text _) fun _ =>
    .bind (fields.isLocal_required isLocal_text _) fun _ =>
    .bind (fields.isLocal_optional isLocal_text _) fun _ =>
    .bind (fields.isLocal_withDefault isLocal_readSource _ _) fun _ =>
    .bind (fields.isLocal_required isLocal_readMapping _) fun _ => .pure _

theorem isLocal_readSchema : readSchema.IsLocal :=
  isLocal_record fun fields => fields.isLocal_required isLocal_readPath _

theorem isLocal_reader : reader.IsLocal :=
  isLocal_record fun fields => .bind (fields.isLocal_withDefault isLocal_readVersion _ _) fun _ =>
    .bind (fields.isLocal_optional isLocal_text _) fun _ =>
    .bind (fields.isLocal_optional isLocal_readSchema _) fun _ =>
    .bind (fields.isLocal_withDefault (isLocal_list isLocal_readEntry) _ _) fun _ =>
    .bind (fields.isLocal_withDefault (isLocal_list isLocal_readEntry) _ _) fun _ => .pure _

/-! ### Whole manifests -/

theorem size_fill (place : VersionPlace) {n n' : Node} (h : n.size = n'.size) :
    (place.fill n).size = (place.fill n').size := by
  cases place with
  | specification root => exact Node.size_fillField root _ h
  | mapping l root entries entry fields =>
      exact Node.size_fillField root _ (Node.size_fillItem entries (Node.size_fillField entry _
        (Node.size_fillField fields _ h)))

theorem version?_withVersion {place : VersionPlace} {m : Manifest} {version : String}
    (h : place.version? m = some version) (other : String) :
    place.version? (place.withVersion other m) = some other := by
  cases place with
  | specification root => rfl
  | mapping l root entries entry fields =>
      obtain ⟨e, found, -⟩ := Option.bind_eq_some_iff.mp h
      have replaced (others : List Entry) : l.entries (l.replace others m) = others := by
        cases l <;> rfl
      rw [VersionPlace.version?, VersionPlace.withVersion, replaced, List.getElem?_modify_eq, found]
      rfl

theorem alike_readVersion (version : Version) (room : Nat) :
    Alike (version.read? ≠ none)
      (fun a b => a = some version.text ∧ b = some (version.read?.getD version.text))
      (readVersion room (.scalar none .quoted version.text))
      (readVersion room (.scalar none .plain version.text)) := by
  rw [readVersion_quoted, version.readVersion_plain]
  cases version.read? with
  | none => exact .of_illegible (fun some => some rfl) _
  | some text => exact .pure (Option.some_ne_none text) ⟨rfl, rfl⟩

section

variable {version : Version} {place : VersionPlace} {anchors : List (Nat × Node)}
  {unquoted quoted : String}

/-- A version in quotes is read as it is written. -/
theorem version?_of_quoted {m : Manifest}
    (h : Document.parse? quoted =
      some ⟨some (place.fill (.scalar none .quoted version.text)), anchors⟩)
    (read : Reader.parse? reader quoted = some m) :
    place.version? m = some version.text ∧ m = place.withVersion version.text m := by
  have itself (room : Nat) : Alike True (fun a b => a = some version.text ∧ b = some version.text)
      (readVersion room (.scalar none .quoted version.text))
      (readVersion room (.scalar none .quoted version.text)) := by
    rw [readVersion_quoted]
    exact .pure trivial ⟨rfl, rfl⟩
  have made := (alike_parse? isLocal_reader h h rfl (alike_fill place itself maxDepth)).1 trivial
  rw [read] at made
  obtain ⟨same⟩ := made
  exact same

/-- Without quotes only the version is read otherwise. -/
theorem parse?_unquoted
    (h : Document.parse? unquoted =
      some ⟨some (place.fill (.scalar none .plain version.text)), anchors⟩)
    (h' : Document.parse? quoted =
      some ⟨some (place.fill (.scalar none .quoted version.text)), anchors⟩) :
    Reader.parse? reader unquoted = (Reader.parse? reader quoted).bind fun m =>
      version.read?.map (place.withVersion · m) := by
  obtain ⟨legible, illegible⟩ := alike_parse? isLocal_reader h' h (size_fill place rfl)
    (alike_fill place (alike_readVersion version) maxDepth)
  cases read : version.read? with
  | none =>
      rw [illegible (not_not_intro read)]
      exact (Option.bind_fun_none _).symm
  | some text =>
      have made := legible (read ▸ Option.some_ne_none text)
      generalize Reader.parse? reader quoted = first, Reader.parse? reader unquoted = second at made
      cases made with
      | none => rfl
      | some same =>
          rw [same.2, read]
          rfl

end

/-- **A version in quotes and without.**

Two manifests are alike but for the quotes of one version.  If the one with quotes is refused, then
so is the other.  Otherwise it has the version as it is written, and the other one has what is read
of the version without quotes, or is refused if nothing is.  So both are read to the same value
exactly if nothing of the version is lost without quotes. -/
theorem parse_unquoted (version : Version) (place : VersionPlace) {anchors : List (Nat × Node)}
    {unquoted quoted : String}
    (h : Document.parse? unquoted =
      some ⟨some (place.fill (.scalar none .plain version.text)), anchors⟩)
    (h' : Document.parse? quoted =
      some ⟨some (place.fill (.scalar none .quoted version.text)), anchors⟩) :
    (∀ e, parse quoted = .error e → parse unquoted = .error e) ∧
      ∀ m, parse quoted = .ok m →
        place.version? m = some version.text ∧
          parse unquoted = version.read?.elim (.error (.manifest .malformed))
            (fun text => .ok (place.withVersion text m)) ∧
          (parse unquoted = .ok m ↔ version.IsKept) := by
  have other := parse?_unquoted h h'
  simp only [parse]
  cases read : Reader.parse? reader quoted with
  | none =>
      rw [other, read]
      exact ⟨fun e refused => refused, nofun⟩
  | some m =>
      obtain ⟨written, itself⟩ := version?_of_quoted h' read
      refine ⟨nofun, ?_⟩
      rintro m ⟨⟩
      rw [other, read, version.isKept_iff, Option.bind_some]
      refine ⟨written, ?_⟩
      cases version.read? with
      | none => exact ⟨rfl, by simp⟩
      | some text =>
          refine ⟨rfl, fun same => ?_, fun same => ?_⟩
          · have changed := version?_withVersion written text
            have same : place.withVersion text m = m := Except.ok.inj same
            rw [same, written] at changed
            exact changed.symm
          · rw [Option.some.inj same]
            exact congrArg Except.ok itself.symm

/-- One tenth. -/
def tenth : Version := ⟨[['0'], ['1']], by decide, by decide⟩

/-- The fields of a manifest with one data source, of which the mapping has a version. -/
def oneSource (isQuoted : Bool) (version : String) : List (String × Outline) :=
  [("dataSources", .list [.mapping [("kind", .word false "ethereum"), ("name", .word false "Token"),
    ("mapping", .mapping [("apiVersion", .word isQuoted version)])]])]

/-- The place of that version. -/
def inOneSource : VersionPlace :=
  .mapping .dataSources {} {}
    { before := [(.scalar none .plain "kind", .scalar none .plain "ethereum"),
        (.scalar none .plain "name", .scalar none .plain "Token")] }
    {}

theorem parse_unquoted_tenth : ∃ m,
    parse (Outline.mapping (oneSource true "0.1")).text = .ok m ∧
      inOneSource.version? m = some "0.1" ∧
      parse (Outline.mapping (oneSource false "0.1")).text = .ok m := by
  have well (isQuoted : Bool) : (Outline.mapping (oneSource isQuoted "0.1")).IsWell := by
    have word {isQuoted : Bool} {text : String} (h : Outline.IsWord text) :
        (Outline.word isQuoted text).IsWell := h
    have version : (Outline.mapping [("apiVersion", .word isQuoted "0.1")]).IsWell :=
      ⟨List.cons_ne_nil _ _, by decide, word (by decide), trivial⟩
    exact ⟨List.cons_ne_nil _ _, by decide, ⟨List.cons_ne_nil _ _, ⟨List.cons_ne_nil _ _, by decide,
      word (by decide), by decide, word (by decide), by decide, version, trivial⟩, trivial⟩, trivial⟩
  have document (isQuoted : Bool) :
      Document.parse? (Outline.mapping (oneSource isQuoted "0.1")).text =
        some ⟨some (inOneSource.fill (.scalar none (Outline.style isQuoted) tenth.text)), []⟩ :=
    Document.parse?_text (well isQuoted)
  have kept : tenth.IsKept := by decide +kernel
  have accepted : (parse (Outline.mapping (oneSource true "0.1")).text).toOption.isSome = true := by
    decide +kernel
  obtain ⟨-, same⟩ := parse_unquoted tenth inOneSource (document false) (document true)
  cases read : parse (Outline.mapping (oneSource true "0.1")).text with
  | error e =>
      rw [read] at accepted
      cases accepted
  | ok m =>
      obtain ⟨version, -, unquoted⟩ := same m read
      exact ⟨m, rfl, version, unquoted.mpr kept⟩

/-- A version that ends in a zero. -/
def oneTen : Version := ⟨[['1'], ['1', '0']], by decide, by decide⟩

/-- Without quotes the zero is lost. -/
theorem not_same_oneTen :
    (parse s!"specVersion: \"{oneTen.text}\"\n").toOption.bind (·.specVersion?) = some "1.10" ∧
      (parse s!"specVersion: {oneTen.text}\n").toOption.bind (·.specVersion?) = some "1.1" := by
  decide +kernel

end Manifest

end Subgraph

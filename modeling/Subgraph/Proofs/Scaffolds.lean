import Subgraph.Manifest.Reader
import Subgraph.Proofs.OutlineReading
import Subgraph.Proofs.Rules
import Subgraph.Proofs.ScaffoldTexts

/-!
# Scaffolds — what they write is read and accepted

A manifest is written for a new contract (`NewContract.manifestText`), read, and checked against
the rules of the family.

* `readSource_sourceFields`, `readMapping_mappingFields`, `parse_manifestText`: what is read is
  what was meant, but for one thing.  The name of the interface is written without quotes, as a
  value that may be missing, and a contract may be called `null` (`SaysNone`).  Then no name is
  read.  Addresses and accounts do not run this risk: an account that is called `null` stands in
  quotes, and no address says that it is missing (`optional_bech32`).
* `obeys_entryMeant`: what was meant obeys the rules.
* **`scaffold_accepted`**: no errors are found, unless the name of the interface is lost; then this
  is the only error.
-/

namespace Subgraph

open Yaml Yaml.Reader Entry

namespace NewContract

variable {f : Family} {c : NewContract} (room : Nat)

/-- The name says to a reader of values that may be missing that there is none. -/
def SaysNone (name : String) : Prop := name ∈ ["null", "Null", "NULL"]

instance (name : String) : Decidable (SaysNone name) :=
  inferInstanceAs (Decidable (name ∈ ["null", "Null", "NULL"]))

/-- The source that is read. -/
def sourceRead (f : Family) (c : NewContract) : Source :=
  match f with
  | .ethereum =>
    { address? := c.address?
      abi? := if Scalar.isNullWord c.name then none else some c.name
      startBlock? := c.startBlock? }
  | .near => { account? := c.address?, startBlock? := c.startBlock? }
  | .tendermint => { address? := c.address?, startBlock? := some (c.startBlock?.getD 0) }

/-- The mapping that is read. -/
def mappingRead (f : Family) (c : NewContract) : Mapping :=
  match f with
  | .ethereum =>
    { kind? := some "ethereum/events"
      apiVersion? := some "0.0.7"
      language? := some "wasm/assemblyscript"
      abis := [⟨c.name, ⟨s!"./abis/{c.name}.json"⟩⟩]
      file? := some ⟨c.mappingFile⟩
      others := [("eventHandlers", .sequence [])] }
  | .near =>
    { apiVersion? := some "0.0.5"
      language? := some "wasm/assemblyscript"
      file? := some ⟨c.mappingFile⟩
      others := [("receiptHandlers",
        .sequence [.mapping [(.string "handler", .string "handleReceipt")]])] }
  | .tendermint =>
    { apiVersion? := some "0.0.7"
      language? := some "wasm/assemblyscript"
      file? := some ⟨c.mappingFile⟩
      others := [("blockHandlers",
        .sequence [.mapping [(.string "handler", .string "handleBlock")]])] }

/-- The data source that is read. -/
def entryRead (f : Family) (kind : String) (c : NewContract) : Entry where
  kind := kind
  name := c.name
  source := c.sourceRead f
  mapping := c.mappingRead f

/-! ### The fields of the source -/

/-- What identifies a contract is read from between quotes. -/
theorem optional_quotedWord (word : String) :
    text.optional room (Outline.word true word).node = pure (some word) := optional_quoted text word

/-- An address of bech32 is read without quotes, for it does not say that it is missing. -/
theorem optional_bech32 {address : String} (h : Cosmos.IsAddress address) :
    text.optional room (Outline.word false address).node = pure (some address) := by
  have refused : ∀ word ∈ ["null", "Null", "NULL", "~"], Cosmos.addressProblem? word ≠ none := by
    decide +kernel
  have present : ¬ (address = "" ∨ Scalar.isNullWord address = true) := by
    rintro (none | null)
    · exact (isWord_of_isBech32 h).some none
    · exact refused address (by simpa [Scalar.isNullWord] using null)
        (Cosmos.addressProblem?_eq_none_iff.mpr h)
  rw [optional_plain, if_neg present]
  rfl

/-- A name is read without quotes, unless it says that it is missing. -/
theorem optional_name (h : IsName c.name) :
    text.optional room (Outline.word false c.name).node =
      pure (if Scalar.isNullWord c.name then none else some c.name) := by
  rw [optional_plain]
  by_cases null : Scalar.isNullWord c.name = true
  · simp only [null, or_true, if_true]
  · rw [if_neg (by simp [h.isWord.some, null]), if_neg null]
    rfl

/-- A number of 64 bits is read. -/
theorem optional_number {n : Nat} (small : n < twoTo 64) :
    natural.optional room (Outline.word false n.repr).node = pure (some n) := by
  have number : Scalar.natural? n.repr.toList = some n := by
    rw [Nat.toList_repr, Scalar.natural?_toDigits]
  have present : ¬ (n.repr = "" ∨ Scalar.isNullWord n.repr = true) := by
    have words : ∀ word ∈ ["", "null", "Null", "NULL", "~"],
        Scalar.natural? word.toList = none := by decide
    intro missing
    have none := words n.repr (by simpa [Scalar.isNullWord] using missing)
    rw [number] at none
    cases none
  rw [optional_plain, if_neg present, natural_word number small]
  rfl

/-- **The source is read.** -/
theorem readSource_sourceFields (h : c.IsFor f) :
    Manifest.readSource (room + 1) (Outline.mapping (c.sourceFields f)).node =
      pure (c.sourceRead f) := by
  have once : ((c.sourceFields f).map Prod.fst).Nodup := by
    cases given : c.address? <;> cases begun : c.startBlock? <;> cases f <;>
      simp [sourceFields, startField, given, begun]
  have name := optional_name room h.name
  have start : ∀ n ∈ c.startBlock?, natural.optional room (Outline.word false n.repr).node =
      pure (some n) := fun n hn =>
    optional_number room (h.startBlock n hn)
  have zero : natural.optional room (Outline.word false (Nat.repr 0)).node = pure (some 0) :=
    optional_number room (twoTo_pos 64)
  rw [Manifest.readSource, record_mapping once]
  cases f with
  | ethereum =>
      cases given : c.address? <;> cases begun : c.startBlock? <;>
        simp [sourceFields, startField, sourceRead, Fields.optional, Fields.withDefault,
          List.lookup_cons, name, given, begun, start, optional_quotedWord]
  | near =>
      obtain ⟨account, given⟩ := Option.ne_none_iff_exists'.mp (h.account rfl)
      cases begun : c.startBlock? <;>
        simp [sourceFields, startField, sourceRead, Fields.optional, Fields.withDefault,
          List.lookup_cons, given, begun, start, optional_quotedWord]
  | tendermint =>
      have address : ∀ a ∈ c.address?, text.optional room (Outline.word false a).node =
          pure (some a) := fun a ha => optional_bech32 room (h.isContract a ha)
      cases given : c.address? <;> cases begun : c.startBlock? <;>
        simp [sourceFields, sourceRead, Fields.optional, Fields.withDefault, List.lookup_cons, given,
          begun, start, address, zero]

/-! ### The fields of the mapping -/

/-- A text that stands for itself is not missing. -/
theorem isPresent_of_plain? {word : String} (h : Scalar.plain? word = some (.string word)) :
    ¬ (word = "" ∨ Scalar.isNullWord word = true) := by
  intro missing
  rw [Scalar.plain?, if_pos missing] at h
  cases h

/-- A text that stands for itself is read as a version. -/
theorem readVersion_word {version : String}
    (h : Scalar.plain? version = some (.string version)) :
    Manifest.readVersion room (Outline.word false version).node = pure (some version) := by
  rw [Manifest.readVersion, optional_plain, if_neg (isPresent_of_plain? h), generic_word h]
  rfl

theorem optional_word {word : String} (h : Scalar.plain? word = some (.string word)) :
    text.optional room (Outline.word false word).node = pure (some word) := by
  rw [optional_plain, if_neg (isPresent_of_plain? h)]
  rfl

/-- The mapping file is read. -/
theorem optional_mappingFile :
    Manifest.readPath.optional room (Outline.word false c.mappingFile).node =
      pure (some ⟨c.mappingFile⟩) := by
  have first : c.mappingFile.toList.head? = some '.' := by
    simp [mappingFile, toString]
  have present : ¬ (c.mappingFile = "" ∨ Scalar.isNullWord c.mappingFile = true) := by
    have words : ∀ word ∈ ["", "null", "Null", "NULL", "~"],
        word.toList.head? ≠ some '.' := by decide
    exact fun missing => words _ (by simpa [Scalar.isNullWord] using missing) first
  rw [optional_plain, if_neg present]
  rfl

theorem readAbi_fields : Manifest.readAbi (room + 1) (Outline.mapping [
    ("name", .word false c.name), ("file", .word false s!"./abis/{c.name}.json")]).node =
      pure ⟨c.name, ⟨s!"./abis/{c.name}.json"⟩⟩ := rfl

/-- The one handler of a mapping is kept as it is. -/
theorem generic_handler {handler : String}
    (h : Scalar.plain? handler = some (.string handler)) :
    generic (room + 2) (Outline.list [.mapping [("handler", .word false handler)]]).node =
      pure (.sequence [.mapping [(.string "handler", .string handler)]]) :=
  generic_item (generic_field rfl (generic_word h))

/-- **The mapping is read.** -/
theorem readMapping_mappingFields :
    Manifest.readMapping (room + 4) (Outline.mapping (c.mappingFields f)).node =
      pure (c.mappingRead f) := by
  have once : ((c.mappingFields f).map Prod.fst).Nodup := by
    cases f <;> simp [mappingFields]
  have kind : text.optional (room + 3) (Outline.word false "ethereum/events").node =
      pure (some "ethereum/events") := optional_word _ rfl
  have language : text.optional (room + 3) (Outline.word false "wasm/assemblyscript").node =
      pure (some "wasm/assemblyscript") := optional_word _ rfl
  have near : Manifest.readVersion (room + 3) (Outline.word false "0.0.5").node =
      pure (some "0.0.5") := readVersion_word _ rfl
  have other : Manifest.readVersion (room + 3) (Outline.word false "0.0.7").node =
      pure (some "0.0.7") := readVersion_word _ rfl
  have handlers (handler : String) (h : Scalar.plain? handler = some (.string handler)) :
      generic (room + 3) (Outline.list [.mapping [("handler", .word false handler)]]).node =
        pure (.sequence [.mapping [(.string "handler", .string handler)]]) :=
    generic_handler (room + 1) h
  have receipts := handlers "handleReceipt" rfl
  have blocks := handlers "handleBlock" rfl
  rw [Manifest.readMapping, record_mapping once]
  cases f <;>
    simp [mappingFields, mappingRead, Fields.optional, Fields.withDefault, Fields.others,
      List.lookup_cons, Manifest.mappingKeys, merged, optional_mappingFile, kind, language, near, other,
      list_nothing, list_list, generic_nothing, readAbi_fields, receipts, blocks]

/-! ### The manifest -/

theorem readEntry_entryFields (h : c.IsFor f) (kind : String) :
    Manifest.readEntry (room + 5) (Outline.mapping (c.entryFields f kind)).node =
      pure (c.entryRead f kind) := by
  have once : ((c.entryFields f kind).map Prod.fst).Nodup := by simp [entryFields]
  have source := readSource_sourceFields (room + 3) h
  have mapping := readMapping_mappingFields room (f := f) (c := c)
  rw [Manifest.readEntry, record_mapping once]
  simp [entryFields, entryRead, Fields.required, Fields.optional, Fields.withDefault, List.lookup_cons,
    text_word, source, mapping]

/-- **The manifest is read.** -/
theorem parse_manifestText (h : c.IsFor f) {kind : String} (hkind : kind ∈ f.aliases) :
    Manifest.parse (c.manifestText f kind) = .ok { dataSources := [c.entryRead f kind] } := by
  have once : ((c.manifestFields f kind).map Prod.fst).Nodup := by simp [manifestFields]
  have entry := readEntry_entryFields 121 h kind
  have read : Manifest.reader 128 (Outline.mapping (c.manifestFields f kind)).node =
      pure { dataSources := [c.entryRead f kind] } := by
    rw [Manifest.reader, record_mapping once]
    simp [manifestFields, Fields.optional, Fields.withDefault, List.lookup_cons, list_list, entry]
  rw [Manifest.parse, Reader.parse?, parse?_manifestText h hkind]
  simp only [Option.bind_eq_bind, Option.bind_some, Option.getD_some, Reading.maxDepth]
  rw [read]
  rfl

/-! ### The rules -/

theorem saysNone_iff (h : IsName c.name) :
    SaysNone c.name ↔ Scalar.isNullWord c.name = true := by
  have tilde : c.name ≠ "~" := by
    intro e
    have alnum := h.isAlphanum '~' (by rw [e]; decide)
    cases alnum
  simp [SaysNone, Scalar.isNullWord, tilde]

theorem isSegment_of_isName {name : String} (h : IsName name) : IsSegment name := by
  have plain {c : Char} (hc : c.isAlphanum = false) : c ∉ name.toList := by
    intro hm
    rw [h.isAlphanum c hm] at hc
    cases hc
  have dot : '.' ∉ name.toList := plain (by decide)
  refine ⟨h.isWord.some, plain (by decide), plain (by decide), ?_, ?_⟩ <;>
    (rintro rfl; exact dot (by decide))

/-- The data source with its interface, as it is meant. -/
def entryMeant (f : Family) (kind : String) (c : NewContract) : Entry :=
  { c.entryRead f kind with
    source := { c.sourceRead f with abi? := if f = .ethereum then some c.name else none } }

/-- **What is meant obeys the rules.** -/
theorem obeys_entryMeant (h : c.IsFor f) {kind : String} (hkind : kind ∈ f.aliases)
    (options : BuildOptions) : (c.entryMeant f kind).Obeys f options false where
  name := isSegment_of_isName h.name
  kind := hkind
  network := .inr nofun
  handlers := by cases f <;> simp [entryMeant, entryRead, mappingRead, Family.handlers]
  version := by
    have versions : ∀ version ∈ ["0.0.5", "0.0.7"], Semver.problem? version = none := by
      decide +kernel
    have read : ∀ version ∈ (c.mappingRead f).apiVersion?, version ∈ ["0.0.5", "0.0.7"] := by
      cases f <;> (rintro version ⟨⟩; decide)
    exact fun version hv => problem?_eq_none_iff.mp (versions version (read version hv))
  abis := by
    have named : ∀ abi ∈ (c.mappingRead f).abis, abi.name = c.name := by
      cases f <;> simp [mappingRead]
    intro abi ha
    rw [named abi ha]
    exact isSegment_of_isName h.name
  distinct := by cases f <;> simp [entryMeant, entryRead, mappingRead]
  sourceAbi := by
    rintro rfl
    exact ⟨c.name, rfl, _, List.mem_cons_self, rfl⟩
  source := by
    have contract := h.isContract
    cases f with
    | ethereum => exact fun _ => contract
    | near => exact ⟨fun _ => h.account rfl, contract⟩
    | tendermint => exact contract

theorem entryRead_of_kept (h : c.IsFor f) (kind : String)
    (kept : ¬ (f = .ethereum ∧ SaysNone c.name)) : c.entryRead f kind = c.entryMeant f kind := by
  rw [saysNone_iff h.name] at kept
  cases f with
  | ethereum =>
      have named : ¬ Scalar.isNullWord c.name = true := fun lost => kept ⟨rfl, lost⟩
      simp [entryMeant, entryRead, sourceRead, named]
  | near => rfl
  | tendermint => rfl

theorem abi?_of_saysNone (h : c.IsFor .ethereum) (lost : SaysNone c.name) {kind : String} :
    (c.entryRead .ethereum kind).source.abi? = none := by
  rw [saysNone_iff h.name] at lost
  simp [entryRead, sourceRead, lost]

/-- The errors of a manifest with one data source are those of the data source. -/
theorem errors_singleton (f : Family) (options : BuildOptions) (e : Entry) :
    (({ dataSources := [e] } : Manifest).validate f options).errors =
      (e.issues f options ["dataSources", "0"] false).filter Issue.isError := by
  have position : Nat.repr 0 = "0" := rfl
  simp [Manifest.validate, Manifest.entryIssues, Report.errors, position]

/-- An entry that obeys the rules has one error if it loses the name of its interface. -/
theorem errors_without_abi {e : Entry} {name : String} {options : BuildOptions} {place : Place}
    (obeys : { e with source := { e.source with abi? := some name } }.Obeys .ethereum options false)
    (lost : e.source.abi? = none) :
    (e.issues .ethereum options place false).filter Issue.isError =
      [⟨place ++ ["source", "abi"], .missingAbi⟩] := by
  have nothing {issues : List Issue} (h : Harmless issues) : issues.filter Issue.isError = [] :=
    List.filter_eq_nil_iff.mpr fun i hi => Bool.eq_false_iff.mp (h i hi)
  have named : AreMild e.nameFindings := areMild_nameFindings.mpr obeys.name
  have kind : AreMild (e.kindFindings .ethereum) := areMild_kindFindings.mpr obeys.kind
  have network : AreMild (e.networkFindings .ethereum options) :=
    areMild_networkFindings.mpr obeys.network
  have handlers : Harmless (handlerIssues .ethereum (place ++ ["mapping"]) e.mapping) :=
    harmless_handlerIssues.mpr obeys.handlers
  have version : AreMild (versionFindings e.mapping) := areMild_versionFindings.mpr obeys.version
  have abis : Harmless (abiIssues (place ++ ["mapping", "abis"]) [] 0 e.mapping.abis) :=
    harmless_abiIssues.mpr
      ⟨fun abi ha => ⟨obeys.abis abi ha, List.not_mem_nil⟩, obeys.distinct⟩
  have contract : Harmless (contractIssues .ethereum (place ++ ["source"]) false e.source) :=
    harmless_contractIssues.mpr obeys.source
  have missing : e.sourceAbiFindings .ethereum = [.missingAbi] := by
    simp [sourceAbiFindings, Family.supportsAbis, lost]
  simp only [issues, List.filter_append, nothing (harmless_issuesAt.mpr named),
    nothing (harmless_issuesAt.mpr kind), nothing (harmless_issuesAt.mpr network),
    nothing handlers, nothing (harmless_issuesAt.mpr version), nothing abis, nothing contract,
    missing, List.nil_append, List.append_nil]
  rfl

/-- **What the scaffolds write is read and accepted**, unless a name is taken for nothing.

For each family and every contract that it can have, the manifest with one data source is read, and
it is one of the family.  The data source has the kind, the name, the address or account and the
start block that were given.  In one of Ethereum the source names the interface that is called like
the contract, unless this name says that there is none.  The rules find no error then, and find
otherwise that the name of an interface is missing. -/
theorem scaffold_accepted (f : Family) (c : NewContract) (h : c.IsFor f) (kind : String)
    (hkind : kind ∈ f.aliases) (options : BuildOptions) :
    ∃ m e, Manifest.parse (c.manifestText f kind) = .ok m ∧
      m.dataSources = [e] ∧ m.protocol.family? = some f ∧ e.kind = kind ∧ e.name = c.name ∧
      (if f = .near then e.source.account? else e.source.address?) = c.address? ∧
      (∀ n ∈ c.startBlock?, e.source.startBlock? = some n) ∧
      (f = .ethereum → (e.source.abi? = some c.name ↔ ¬ SaysNone c.name)) ∧
      (m.validate f options).errors =
        if f = .ethereum ∧ SaysNone c.name then
          [⟨["dataSources", "0", "source", "abi"], .missingAbi⟩]
        else [] := by
  have obeys := obeys_entryMeant h hkind options
  refine ⟨{ dataSources := [c.entryRead f kind] }, c.entryRead f kind, parse_manifestText h hkind,
    rfl, (Protocol.resolve_family_iff kind f).mpr hkind, rfl, rfl, ?_, ?_, ?_, ?_⟩
  · cases f <;> rfl
  · intro n hn
    cases f <;> simp [entryRead, sourceRead, Option.mem_def.mp hn]
  · rintro rfl
    rw [saysNone_iff h.name]
    simp [entryRead, sourceRead]
  · rw [errors_singleton]
    split
    · next lost =>
        obtain ⟨rfl, null⟩ := lost
        exact errors_without_abi obeys (abi?_of_saysNone h null)
    · next kept =>
        rw [entryRead_of_kept h kind kept]
        exact List.filter_eq_nil_iff.mpr fun i hi =>
          Bool.eq_false_iff.mp (harmless_issues_iff.mpr obeys i hi)

/-- A token with its address. -/
def token : NewContract where
  name := "Token"
  address? := some "0x2E645469f354BB4F5c8a05B3b30A929361cf77eC"
  startBlock? := some 100

theorem scaffold_accepted_token : token.IsFor .ethereum ∧
    ∃ m e, Manifest.parse (token.manifestText .ethereum "ethereum") = .ok m ∧
      m.dataSources = [e] ∧ e.source.abi? = some "Token" ∧
      (m.validate .ethereum {}).errors = [] := by
  have possible : token.IsFor .ethereum :=
    { name := ⟨'T', "oken".toList, rfl, by decide, List.all_eq_true.mp (by decide)⟩
      address := by
        rintro address ⟨⟩
        decide +kernel
      account := nofun
      startBlock := by
        rintro n ⟨⟩
        decide }
  obtain ⟨m, e, read, one, -, -, -, -, -, abi, errors⟩ :=
    scaffold_accepted .ethereum token possible "ethereum" (by decide) {}
  have kept : ¬ SaysNone token.name := by decide
  rw [if_neg fun lost => kept lost.2] at errors
  exact ⟨possible, m, e, read, one, (abi rfl).mpr kept, errors⟩

/-- A contract that is called `null`. -/
def nameless : NewContract := ⟨"null", none, none⟩

/-- The name of its interface is lost, and the manifest is refused. -/
theorem not_accepted_nameless : nameless.IsFor .ethereum ∧
    ∃ m e, Manifest.parse (nameless.manifestText .ethereum "ethereum") = .ok m ∧
      m.dataSources = [e] ∧ e.source.abi? = none ∧
      (m.validate .ethereum {}).errors =
        [⟨["dataSources", "0", "source", "abi"], .missingAbi⟩] := by
  have possible : nameless.IsFor .ethereum :=
    { name := ⟨'n', "ull".toList, rfl, by decide, List.all_eq_true.mp (by decide)⟩
      address := nofun
      account := nofun
      startBlock := nofun }
  have lost : (nameless.entryRead .ethereum "ethereum").source.abi? = none :=
    abi?_of_saysNone possible (by decide)
  refine ⟨possible, _, _, parse_manifestText possible (by decide), rfl, lost, ?_⟩
  rw [errors_singleton]
  exact errors_without_abi (obeys_entryMeant possible (by decide) {}) lost

end NewContract

end Subgraph

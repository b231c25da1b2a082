import Mathlib.Data.List.Nodup
import Subgraph.Validation
import Subgraph.Proofs.Contracts

/-!
# Rules — the manifests in which no errors are found

`Manifest.validate` lists what breaks a rule.  Here the rules stand by themselves, and a manifest
has no errors just when it obeys them.

* `Entry.Obeys`: the rules for an entry of a family, `Manifest.Obeys` those for a manifest.
* `Entry.Harmless`: there are no errors among some issues.  There is one lemma for each rule, which
  says when the issues that are listed for it are harmless.
* `Entry.harmless_issues_iff`, `Manifest.harmless_validate_iff`: an entry and a manifest have no
  errors just when they obey the rules.
* `Manifest.validate_accepts`: this, and the failure of a manifest with errors, which counts them.
-/

namespace Subgraph

/-! ### The rules -/

/-- What a source says about its contract is as a family has it. -/
def Source.Obeys (f : Family) (isTemplate : Bool) (s : Source) : Prop :=
  match f with
  | .ethereum => isTemplate = false → ∀ address ∈ s.address?, Ethereum.IsAddress address
  | .near =>
    (isTemplate = false → s.account? ≠ none) ∧ ∀ account ∈ s.account?, Near.IsAccount account
  | .tendermint => ∀ address ∈ s.address?, Cosmos.IsAddress address

/-- The rules for an entry of a family, under some options. -/
structure Entry.Obeys (f : Family) (options : BuildOptions) (isTemplate : Bool) (e : Entry) :
    Prop where
  /-- The name can be that of a directory. -/
  name : IsSegment e.name
  kind : e.kind ∈ f.aliases
  network : options.skipNetworks = true ∨ ∀ network ∈ e.network?, network ∈ f.networks
  /-- Keys for handlers are those of the family. -/
  handlers : ∀ field ∈ e.mapping.others, "Handlers".toList <:+ field.1.toList →
    field.1 ∈ f.handlers
  version : ∀ version ∈ e.mapping.apiVersion?, ∃ v, Semver.parse version = .ok v
  /-- The names of interfaces can be those of files. -/
  abis : ∀ abi ∈ e.mapping.abis, IsSegment abi.name
  distinct : (e.mapping.abis.map AbiEntry.name).Nodup
  /-- Where contracts have interfaces, the source names one of the mapping. -/
  sourceAbi : f = .ethereum → ∃ name ∈ e.source.abi?, ∃ abi ∈ e.mapping.abis, abi.name = name
  source : e.source.Obeys f isTemplate

/-- The rules for a manifest. -/
structure Manifest.Obeys (f : Family) (options : BuildOptions) (m : Manifest) : Prop where
  some : m.dataSources ≠ []
  dataSources : ∀ e ∈ m.dataSources, e.Obeys f options false
  templates : ∀ e ∈ m.templates, e.Obeys f options true

/-! ### Issues that are no errors -/

theorem Issue.isError_eq_false_iff {i : Issue} : i.isError = false ↔ i.severity ≠ .error := by
  simp [Issue.isError]

namespace Entry

/-- There are no errors among some issues. -/
def Harmless (issues : List Issue) : Prop := ∀ i ∈ issues, i.isError = false

/-- None of some findings is an error. -/
def AreMild (findings : List Finding) : Prop := ∀ x ∈ findings, x.severity ≠ .error

@[simp] theorem harmless_nil : Harmless [] := nofun

@[simp] theorem harmless_append {issues₁ issues₂ : List Issue} :
    Harmless (issues₁ ++ issues₂) ↔ Harmless issues₁ ∧ Harmless issues₂ := List.forall_mem_append

@[simp] theorem harmless_issuesAt {place : Place} {findings : List Finding} :
    Harmless (issuesAt place findings) ↔ AreMild findings :=
  List.forall_mem_map.trans (forall₂_congr fun _ _ => Issue.isError_eq_false_iff)

@[simp] theorem areMild_nil : AreMild [] := nofun

@[simp] theorem areMild_singleton {x : Finding} : AreMild [x] ↔ x.severity ≠ .error :=
  List.forall_mem_singleton

theorem areMild_append {xs ys : List Finding} : AreMild (xs ++ ys) ↔ AreMild xs ∧ AreMild ys :=
  List.forall_mem_append

/-- Findings that are errors, one for each problem, are mild if there is no problem. -/
theorem areMild_problem {α : Type} {problem? : Option α} {finding : α → Finding}
    (error : ∀ p, (finding p).severity = .error) :
    AreMild (problem?.toList.map finding) ↔ problem? = none := by
  cases problem? with
  | none => simp
  | some p => simp [error p]

variable {f : Family} {options : BuildOptions} {place : Place} {isTemplate : Bool} {e : Entry}

/-! ### One rule after the other -/

theorem areMild_nameFindings : AreMild e.nameFindings ↔ IsSegment e.name := by
  rw [nameFindings, areMild_problem fun _ => rfl, segmentProblem?_eq_none_iff]

theorem areMild_kindFindings : AreMild (e.kindFindings f) ↔ e.kind ∈ f.aliases := by
  by_cases known : e.kind ∈ f.aliases
  · by_cases deprecated : e.kind ∈ f.deprecatedAliases <;>
      simp [kindFindings, known, deprecated, Finding.severity]
  · simp [kindFindings, known, Finding.severity]

theorem areMild_networkFindings : AreMild (e.networkFindings f options) ↔
    options.skipNetworks = true ∨ ∀ network ∈ e.network?, network ∈ f.networks := by
  cases named : e.network? with
  | none => simp [networkFindings, named]
  | some network =>
      by_cases skip : options.skipNetworks = true
      · simp [networkFindings, named, skip]
      · by_cases known : network ∈ f.networks <;>
          simp [networkFindings, named, skip, known, Finding.severity]

theorem mem_handlers_iff {m : Mapping} {key : String} : key ∈ m.handlers ↔
    (∃ field ∈ m.others, field.1 = key) ∧ "Handlers".toList <:+ key.toList := by
  rw [Mapping.handlers, List.mem_filter, List.mem_map, Mapping.isHandlerKey,
    List.isSuffixOf_iff_suffix]

/-- All issues with keys for handlers are errors, so there must be none. -/
theorem harmless_handlerIssues {m : Mapping} : Harmless (handlerIssues f place m) ↔
    ∀ field ∈ m.others, "Handlers".toList <:+ field.1.toList → field.1 ∈ f.handlers := by
  constructor
  · intro h field hf marked
    by_contra unknown
    have listed : field.1 ∈ m.handlers := mem_handlers_iff.mpr ⟨⟨field, hf, rfl⟩, marked⟩
    have refused : (!f.handlers.contains field.1) = true := by simpa using unknown
    have harmless := h _ (List.mem_map_of_mem (List.mem_filter.mpr ⟨listed, refused⟩))
    cases harmless
  · intro h i hi
    obtain ⟨key, hk, rfl⟩ := List.mem_map.mp hi
    obtain ⟨listed, refused⟩ := List.mem_filter.mp hk
    obtain ⟨⟨field, hf, rfl⟩, marked⟩ := mem_handlers_iff.mp listed
    simp [h field hf marked] at refused

theorem problem?_eq_none_iff {version : String} :
    Semver.problem? version = none ↔ ∃ v, Semver.parse version = .ok v := by
  cases read : Semver.parse version with
  | ok v => simp [Semver.problem?, read]
  | error problem => simp [Semver.problem?, read]

theorem areMild_versionFindings {m : Mapping} : AreMild (versionFindings m) ↔
    ∀ version ∈ m.apiVersion?, ∃ v, Semver.parse version = .ok v := by
  cases written : m.apiVersion? with
  | none => simp [versionFindings, written]
  | some version =>
      have mild : AreMild ((Semver.problem? version).toList.map (.badVersion version)) ↔
          Semver.problem? version = none := areMild_problem fun _ => rfl
      simp [versionFindings, written, mild, problem?_eq_none_iff]

/-- **The names of interfaces** are in order when they are plain, different from each other, and
different from those before them. -/
theorem harmless_abiIssues {before : List String} {n : Nat} {abis : List AbiEntry} :
    Harmless (abiIssues place before n abis) ↔
      (∀ abi ∈ abis, IsSegment abi.name ∧ abi.name ∉ before) ∧
        (abis.map AbiEntry.name).Nodup := by
  induction abis generalizing before n with
  | nil => simp [abiIssues]
  | cons abi abis ih =>
      have first : AreMild (abiFindings before abi.name) ↔
          IsSegment abi.name ∧ abi.name ∉ before := by
        rw [abiFindings, areMild_append, areMild_problem fun _ => rfl,
          segmentProblem?_eq_none_iff]
        by_cases seen : abi.name ∈ before <;> simp [seen, Finding.severity]
      rw [abiIssues, harmless_append, harmless_issuesAt, first, ih, List.forall_mem_cons,
        List.map_cons, List.nodup_cons]
      simp only [List.mem_map, List.mem_cons, not_or]
      constructor
      · rintro ⟨named, others, distinct⟩
        refine ⟨⟨named, fun b hb => ⟨(others b hb).1, (others b hb).2.2⟩⟩, ?_, distinct⟩
        rintro ⟨b, hb, same⟩
        exact (others b hb).2.1 same
      · rintro ⟨⟨named, others⟩, fresh, distinct⟩
        refine ⟨named, fun b hb => ⟨(others b hb).1, fun same => ?_, (others b hb).2⟩, distinct⟩
        exact fresh ⟨b, hb, same⟩

theorem isSome_abi?_iff {m : Mapping} {name : String} :
    (m.abi? name).isSome = true ↔ ∃ abi ∈ m.abis, abi.name = name := by
  simp [Mapping.abi?, List.find?_isSome]

theorem areMild_sourceAbiFindings : AreMild (e.sourceAbiFindings f) ↔
    (f = .ethereum → ∃ name ∈ e.source.abi?, ∃ abi ∈ e.mapping.abis, abi.name = name) := by
  simp only [← isSome_abi?_iff]
  cases named : e.source.abi? with
  | none => cases f <;> simp [sourceAbiFindings, named, Family.supportsAbis, Finding.severity]
  | some name =>
      by_cases declared : (e.mapping.abi? name).isSome = true <;>
        cases f <;>
        simp [sourceAbiFindings, named, declared, Family.supportsAbis, Finding.severity]

theorem areMild_contractFindings {text? : Option String} :
    AreMild (contractFindings f text?) ↔ ∀ text ∈ text?, f.IsContract text := by
  cases text? with
  | none => simp [contractFindings]
  | some text =>
      have mild : AreMild ((f.contractProblem? text).toList.map (.badContract f text)) ↔
          f.contractProblem? text = none := areMild_problem fun _ => rfl
      simp [contractFindings, mild, Family.contractProblem?_eq_none_iff]

/-- Something that is ignored is no error. -/
theorem areMild_ignored {text? : Option String} {x : Finding} (h : x.severity ≠ .error) :
    AreMild (text?.toList.map fun _ => x) := by
  intro y hy
  obtain ⟨_, -, rfl⟩ := List.mem_map.mp hy
  exact h

theorem areMild_missingAccount {account? : Option String} :
    AreMild (if account?.isNone && !isTemplate then [.missingAccount] else []) ↔
      (isTemplate = false → account? ≠ none) := by
  cases account? <;> cases isTemplate <;> simp [Finding.severity]

theorem harmless_contractIssues {s : Source} :
    Harmless (contractIssues f place isTemplate s) ↔ s.Obeys f isTemplate := by
  cases f with
  | ethereum =>
      cases isTemplate with
      | true => exact iff_of_true (harmless_issuesAt.mpr (areMild_ignored (by decide))) nofun
      | false =>
          have mild : AreMild (contractFindings .ethereum s.address?) ↔
              ∀ text ∈ s.address?, Family.ethereum.IsContract text := areMild_contractFindings
          exact harmless_issuesAt.trans (mild.trans ⟨fun h _ => h, fun h => h rfl⟩)
  | near =>
      have ignored : AreMild (s.address?.toList.map fun _ => .ignoredAddress) :=
        areMild_ignored (by decide)
      simp only [contractIssues, harmless_append, harmless_issuesAt, areMild_missingAccount,
        areMild_contractFindings, ignored, and_true]
      rfl
  | tendermint => exact harmless_issuesAt.trans areMild_contractFindings

/-! ### All rules -/

/-- **An entry has no errors** just when it obeys the rules. -/
theorem harmless_issues_iff :
    Harmless (e.issues f options place isTemplate) ↔ e.Obeys f options isTemplate := by
  simp only [issues, harmless_append, harmless_issuesAt, areMild_nameFindings,
    areMild_kindFindings, areMild_networkFindings, harmless_handlerIssues,
    areMild_versionFindings, harmless_abiIssues, areMild_sourceAbiFindings,
    harmless_contractIssues]
  constructor
  · rintro ⟨⟨⟨⟨⟨⟨⟨name, kind⟩, network⟩, handlers⟩, version⟩, abis, distinct⟩, sourceAbi⟩, source⟩
    exact ⟨name, kind, network, handlers, version, fun abi ha => (abis abi ha).1, distinct,
      sourceAbi, source⟩
  · rintro ⟨name, kind, network, handlers, version, abis, distinct, sourceAbi, source⟩
    have abis : ∀ abi ∈ e.mapping.abis, IsSegment abi.name ∧ abi.name ∉ [] := fun abi ha =>
      ⟨abis abi ha, List.not_mem_nil⟩
    exact ⟨⟨⟨⟨⟨⟨⟨name, kind⟩, network⟩, handlers⟩, version⟩, abis, distinct⟩, sourceAbi⟩, source⟩

end Entry

namespace Manifest

variable {f : Family} {options : BuildOptions} {m : Manifest}

theorem harmless_entryIssues_iff {key : String} {isTemplate : Bool} {n : Nat}
    {entries : List Entry} : Entry.Harmless (entryIssues f options key isTemplate n entries) ↔
      ∀ e ∈ entries, e.Obeys f options isTemplate := by
  induction entries generalizing n with
  | nil => simp [entryIssues]
  | cons e entries ih => simp [entryIssues, Entry.harmless_issues_iff, ih]

/-- **A manifest has no errors** just when it obeys the rules. -/
theorem harmless_validate_iff :
    Entry.Harmless (m.validate f options).issues ↔ m.Obeys f options := by
  have some : Entry.Harmless
      (if m.dataSources.isEmpty then [⟨["dataSources"], .noDataSource⟩] else []) ↔
        m.dataSources ≠ [] := by
    cases m.dataSources <;> simp [Entry.Harmless, Issue.isError, Issue.severity, Finding.severity]
  simp only [validate, Entry.harmless_append, harmless_entryIssues_iff, some]
  constructor
  · rintro ⟨⟨some, dataSources⟩, templates⟩
    exact ⟨some, dataSources, templates⟩
  · rintro ⟨some, dataSources, templates⟩
    exact ⟨⟨some, dataSources⟩, templates⟩

theorem harmless_iff_errors {report : Report} :
    Entry.Harmless report.issues ↔ report.errors = [] := by
  simp [Entry.Harmless, Report.errors, List.filter_eq_nil_iff]

/-- **The check accepts the manifests that obey the rules of the family.**

No error is found in such a manifest, and in no other.  Where errors are found, the verdict is a
failure that counts them; warnings do not count. -/
theorem validate_accepts (f : Family) (options : BuildOptions) (m : Manifest) :
    ((∀ i ∈ (m.validate f options).issues, i.severity ≠ .error) ↔ m.Obeys f options) ∧
      ∀ failure, (m.validate f options).outcome = .error failure ↔
        (∃ i ∈ (m.validate f options).issues, i.severity = .error) ∧
          failure = .manifestInvalid
            ((m.validate f options).issues.countP fun i => i.severity = .error) := by
  refine ⟨?_, fun failure => ?_⟩
  · rw [← harmless_validate_iff]
    exact forall₂_congr fun _ _ => Issue.isError_eq_false_iff.symm
  generalize m.validate f options = report
  have count : report.errors.length = report.issues.countP fun i => i.severity = .error := by
    rw [Report.errors, ← List.countP_eq_length_filter]
    rfl
  have none : report.errors = [] ↔ ¬ ∃ i ∈ report.issues, i.severity = .error := by
    rw [← harmless_iff_errors]
    simp [Entry.Harmless, Issue.isError]
  by_cases found : ∃ i ∈ report.issues, i.severity = .error
  · have errors : report.errors ≠ [] := fun h => none.mp h found
    rw [Report.outcome, if_neg errors, count, Except.error.injEq, eq_comm]
    exact (and_iff_right found).symm
  · simp [Report.outcome, none.mpr found, found]

/-- A manifest for the receipts of an account, which it may fail to name. -/
def receipts (account? : Option String) : Manifest where
  dataSources :=
    [{ kind := "near"
       name := "Receipts"
       network? := some "near-mainnet"
       source := { account? := account? }
       mapping := { apiVersion? := some "0.0.5", others := [("receiptHandlers", .sequence [])] } }]

theorem validate_accepts_receipts : (receipts (some "app.good-morning.near")).Obeys .near {} ∧
    ((receipts none).validate .near {}).outcome = .error (.manifestInvalid 1) := by
  constructor
  · exact (validate_accepts .near {} _).1.mp (by decide +kernel)
  · exact ((validate_accepts .near {} _).2 _).mpr ⟨by decide +kernel, by decide +kernel⟩

end Manifest

end Subgraph

import Subgraph.Scaffold
import Subgraph.Text.Lines
import Subgraph.Proofs.Contracts
import Subgraph.Proofs.ContractGrammars
import Subgraph.Proofs.Numerals
import Subgraph.Proofs.OutlineDocuments

/-!
# ScaffoldTexts — the texts of the manifests of scaffolds

A scaffold proposes two fragments of a manifest.  `NewContract.manifestText` is the manifest with
one data source that holds them, and `NewContract.outline` is what it looks like:
`manifestText_eq` says that the text is that of the outline, and `parse?_manifestText` that it is
read as a document with the node of the outline.

Both ask that the parts of the text are words.  The name of a contract begins with a letter, and
letters and digits follow it (`IsName`); the addresses and accounts of all families are words
(`isWord_of_isContract`), and so are the small letters of a name (`isWord_lowercase`).
-/

namespace Subgraph

open Yaml Yaml.Outline

/-- A letter, with letters and digits behind it. -/
def IsName (name : String) : Prop :=
  ∃ c rest, name.toList = c :: rest ∧ c.isAlpha = true ∧ ∀ d ∈ rest, d.isAlphanum = true

/-! ### Words -/

/-- The first character of a word. -/
theorem isWord_cons {text : String} {c : Char} {rest : List Char} (chars : text.toList = c :: rest)
    (first : c.isAlphanum = true) (others : ∀ d ∈ rest, isWordChar d = true) : IsWord text where
  some := by
    rintro rfl
    cases chars
  chars := by
    rw [chars]
    exact List.forall_mem_cons.mpr ⟨isWordChar_of_isAlphanum first, others⟩
  head := by
    rw [chars]
    rintro d ⟨⟩ rfl
    cases first

theorem IsName.isAlphanum {name : String} (h : IsName name) :
    ∀ c ∈ name.toList, c.isAlphanum = true := by
  obtain ⟨c, rest, chars, first, others⟩ := h
  rw [chars]
  exact List.forall_mem_cons.mpr ⟨Bool.or_eq_true_iff.mpr (.inl first), others⟩

theorem IsName.isWord {name : String} (h : IsName name) : IsWord name := by
  obtain ⟨c, rest, chars, first, others⟩ := h
  exact isWord_cons chars (Bool.or_eq_true_iff.mpr (.inl first)) fun d hd =>
    isWordChar_of_isAlphanum (others d hd)

/-- A word goes on with the characters of words. -/
theorem isWord_append {first second : String} (h : IsWord first)
    (others : ∀ c ∈ second.toList, isWordChar c = true) : IsWord (first ++ second) where
  some := by simpa using fun none => absurd none h.some
  chars := by
    rw [String.toList_append]
    exact List.forall_mem_append.mpr ⟨h.chars, others⟩
  head := by
    obtain ⟨c, rest, chars⟩ : ∃ c rest, first.toList = c :: rest :=
      List.exists_cons_of_ne_nil (by simpa using h.some)
    rw [String.toList_append, chars]
    rintro d ⟨⟩
    exact h.head c (by rw [chars]; rfl)

/-- The small letter of a letter or digit of ASCII is one, too. -/
theorem isAlphanum_lowercaseChar {c : Char} (h : c.isAlphanum = true) :
    ∀ d ∈ Text.lowercaseChar c, d.isAlphanum = true := by
  have all : ∀ n < 128, (Char.ofNat n).isAlphanum = true →
      (Text.lowercaseChar (Char.ofNat n)).all Char.isAlphanum = true := by decide
  exact List.all_eq_true.mp (forall_ascii (p := fun c => c.isAlphanum = true →
    (Text.lowercaseChar c).all Char.isAlphanum = true) all (utf8Size_of_isAlphanum h) h)

theorem isAlphanum_lowercase {text : String} (h : ∀ c ∈ text.toList, c.isAlphanum = true) :
    ∀ c ∈ (Text.lowercase text).toList, c.isAlphanum = true := by
  have key : ∀ text before : List Char, (∀ c ∈ text, c.isAlphanum = true) →
      ∀ c ∈ Text.lowercaseFrom before text, c.isAlphanum = true := by
    intro text
    induction text with
    | nil => intro before _; exact nofun
    | cons c rest ih =>
        intro before h
        obtain ⟨first, others⟩ := List.forall_mem_cons.mp h
        have sigma : c ≠ '\u03A3' := by
          rintro rfl
          cases first
        rw [Text.lowercaseFrom, if_neg sigma]
        exact List.forall_mem_append.mpr ⟨isAlphanum_lowercaseChar first, ih _ others⟩
  rw [Text.lowercase, String.toList_ofList]
  exact key _ _ h

theorem isAlphanum_of_isSmall {c : Char} (h : (c.isLower || c.isDigit) = true) :
    c.isAlphanum = true := by
  rcases Bool.or_eq_true_iff.mp h with lower | digit
  · exact Bool.or_eq_true_iff.mpr (.inl (Bool.or_eq_true_iff.mpr (.inr lower)))
  · exact Bool.or_eq_true_iff.mpr (.inr digit)

theorem isAlphanum_of_isHexDigit {c : Char} (h : Text.isHexDigit c = true) :
    c.isAlphanum = true := by
  have all : ∀ n < 128, Text.isHexDigit (Char.ofNat n) = true →
      (Char.ofNat n).isAlphanum = true := by decide
  exact forall_ascii (p := fun c => Text.isHexDigit c = true → c.isAlphanum = true) all
    (utf8Size_of_isHexDigit h) h

theorem isWord_of_isAddress {text : String} (h : Ethereum.IsAddress text) : IsWord text := by
  obtain ⟨digits, chars, -, hex⟩ := h
  refine isWord_cons chars (by decide) (List.forall_mem_cons.mpr ⟨by decide, fun d hd => ?_⟩)
  exact isWordChar_of_isAlphanum (isAlphanum_of_isHexDigit (hex d hd))

theorem isWord_of_isAccount {text : String} (h : Near.IsAccount text) : IsWord text := by
  obtain ⟨-, -, first, parts, ⟨some, named⟩, runs, chars⟩ := h
  obtain ⟨c, rest, rfl⟩ := List.exists_cons_of_ne_nil some
  obtain ⟨name, named⟩ := List.forall_mem_cons.mp named
  refine isWord_cons chars (isAlphanum_of_isSmall name) (List.forall_mem_append.mpr ⟨?_, ?_⟩)
  · exact fun d hd => isWordChar_of_isAlphanum (isAlphanum_of_isSmall (named d hd))
  · intro d hd
    obtain ⟨part, hp, hd⟩ := List.mem_flatMap.mp hd
    obtain ⟨separator, -, named⟩ := runs part hp
    rcases List.mem_cons.mp hd with rfl | hd
    · have mem : part.1 ∈ ['-', '_', '.'] := by simpa [Near.isSeparator, or_assoc] using separator
      have all : ['-', '_', '.'].all isWordChar = true := by decide
      exact List.all_eq_true.mp all _ mem
    · exact isWordChar_of_isAlphanum (isAlphanum_of_isSmall (named d hd))

theorem isWord_of_isBech32 {text : String} (h : Cosmos.IsAddress text) : IsWord text := by
  obtain ⟨-, head, data, chars, some, small, -, listed⟩ := h
  obtain ⟨c, rest, rfl⟩ := List.exists_cons_of_ne_nil some
  obtain ⟨first, small⟩ := List.forall_mem_cons.mp small
  have all : Cosmos.dataAlphabet.all isWordChar = true := by decide
  refine isWord_cons chars (isAlphanum_of_isSmall first) (List.forall_mem_append.mpr
    ⟨fun d hd => isWordChar_of_isAlphanum (isAlphanum_of_isSmall (small d hd)), ?_⟩)
  exact List.forall_mem_cons.mpr ⟨by decide, fun d hd => List.all_eq_true.mp all d (listed d hd)⟩

/-- **What identifies a contract is a word.** -/
theorem isWord_of_isContract {f : Family} {text : String} (h : f.IsContract text) :
    IsWord text := by
  cases f with
  | ethereum => exact isWord_of_isAddress h
  | near => exact isWord_of_isAccount h
  | tendermint => exact isWord_of_isBech32 h

/-- A word in quotes is written as it is between them. -/
theorem quote_of_isWord {text : String} (h : IsWord text) :
    Text.quote text = "\"" ++ text ++ "\"" := by
  have kept : text.toList.flatMap Text.escape = text.toList := by
    have each : ∀ c ∈ text.toList, Text.escape c = [c] := by
      intro c hc
      have plain {d : Char} (hd : isWordChar d = false) : c ≠ d :=
        ne_of_isWordChar (h.chars c hc) hd
      rw [Text.escape, Text.escapeLetter?]
      · exact plain (by decide)
      · exact plain (by decide)
      · exact plain (by decide)
      · exact plain (by decide)
      · exact plain (by decide)
    rw [List.flatMap_congr each, List.flatMap_singleton']
  rw [Text.quote, Text.quoteChars, kept, ← String.toList_inj]
  simp

/-! ### Fragments further to the right -/

/-- The characters of a text, four columns further to the right. -/
def nestedChars (text : List Char) : List Char :=
  (Text.lines text).flatMap fun line => indentation 4 ++ line ++ ['\n']

/-- Characters without line ends. -/
def IsLine (line : List Char) : Prop := ∀ c ∈ line, c ≠ '\n' ∧ c ≠ '\r'

theorem isLine_append {first second : List Char} (h₁ : IsLine first) (h₂ : IsLine second) :
    IsLine (first ++ second) := List.forall_mem_append.mpr ⟨h₁, h₂⟩

theorem isLine_of_isWord {text : String} (h : IsWord text) : IsLine text.toList := fun c hc =>
  ⟨ne_of_isWordChar (h.chars c hc) (by decide), ne_of_isWordChar (h.chars c hc) (by decide)⟩

theorem isLine_indentation (column : Nat) : IsLine (indentation column) := by
  intro c hc
  rw [List.eq_of_mem_replicate hc]
  decide

theorem nestedChars_line {line : List Char} (h : IsLine line) (rest : List Char) :
    nestedChars (line ++ '\n' :: rest) = indentation 4 ++ line ++ '\n' :: nestedChars rest := by
  have feed : '\n' ∉ line := fun hm => (h _ hm).1 rfl
  have kept : Text.dropReturn line = line := by
    rw [Text.dropReturn, if_neg]
    exact fun last => (h _ (List.mem_of_getLast? last)).2 rfl
  rw [nestedChars, Text.lines, Text.linesFrom_append_newline [] line rest feed, List.reverse_nil,
    List.nil_append, kept, List.flatMap_cons, List.append_assoc]
  rfl

theorem indentation_add (m n : Nat) : indentation (m + n) = indentation m ++ indentation n :=
  List.replicate_add ..

/-- The lines of parts at a column lie further to the right, if those of the parts do. -/
theorem nestedChars_others {column : Nat} {moved : List Char} (others rest : List Char)
    (last : Prop) [Decidable last] (none : last → others = [] ∧ moved = [])
    (some : ¬ last → nestedChars (indentation column ++ (others ++ rest)) =
      indentation 4 ++ indentation column ++ moved ++ nestedChars rest) :
    nestedChars ((if last then [] else indentation column) ++ (others ++ rest)) =
      (if last then [] else indentation (column + 4)) ++ moved ++ nestedChars rest := by
  by_cases h : last
  · obtain ⟨rfl, rfl⟩ := none h
    simp only [h, if_true, List.nil_append]
  · rw [if_neg h, if_neg h, some h, Nat.add_comm column, indentation_add]

/-- A value lies further to the right behind a colon, if it does behind any line. -/
theorem nestedChars_value {value : Outline} {column : Nat}
    (moved : ∀ {line : List Char}, IsLine line → ∀ rest,
      nestedChars (line ++ (value.chars (column + 2) ++ rest)) =
        indentation 4 ++ line ++ value.chars (column + 2 + 4) ++ nestedChars rest)
    {line : List Char} (h : IsLine line) (rest : List Char) :
    nestedChars (line ++ (gap (column + 2) value ++ (value.chars (column + 2) ++ rest))) =
      indentation 4 ++ line ++ (gap (column + 4 + 2) value ++ value.chars (column + 4 + 2)) ++
        nestedChars rest := by
  cases inline : value.isInline with
  | true =>
      have space : IsLine [' '] := by simp [IsLine]
      have moved := moved (isLine_append h space) rest
      simpa [gap, inline, Nat.add_right_comm column 2 4] using moved
  | false =>
      have moved := moved (isLine_indentation (column + 2)) rest
      have broken := nestedChars_line h
        (indentation (column + 2) ++ (value.chars (column + 2) ++ rest))
      have deeper : indentation (column + 4 + 2) = indentation 4 ++ indentation (column + 2) := by
        rw [← indentation_add]
        congr 1
        omega
      rw [moved] at broken
      simpa [gap, inline, deeper, Nat.add_right_comm column 2 4] using broken

mutual

/-- An outline whose first line goes on with `line` lies further to the right. -/
theorem nestedChars_chars (o : Outline) (column : Nat) (well : o.IsWell) {line : List Char}
    (h : IsLine line) (rest : List Char) :
    nestedChars (line ++ (o.chars column ++ rest)) =
      indentation 4 ++ line ++ o.chars (column + 4) ++ nestedChars rest := by
  cases o with
  | word isQuoted text =>
      have word : IsLine (wordChars isQuoted text) := by
        have plain : IsLine text.toList := isLine_of_isWord well
        cases isQuoted with
        | false => exact plain
        | true =>
            have quote : IsLine ['"'] := by simp [IsLine]
            exact isLine_append (isLine_append quote plain) quote
      have lined := nestedChars_line (isLine_append h word) rest
      simpa [chars] using lined
  | nothing =>
      have brackets : IsLine ['[', ']'] := by simp [IsLine]
      have lined := nestedChars_line (isLine_append h brackets) rest
      simpa [chars] using lined
  | mapping fields => exact nestedChars_fieldsChars fields column well.1 well.2 h rest
  | list items => exact nestedChars_itemsChars items column well.1 well.2 h rest

theorem nestedChars_fieldsChars (fields : List (String × Outline)) (column : Nat)
    (some : fields ≠ []) (well : AreWellFields fields) {line : List Char} (h : IsLine line)
    (rest : List Char) :
    nestedChars (line ++ (fieldsChars column fields ++ rest)) =
      indentation 4 ++ line ++ fieldsChars (column + 4) fields ++ nestedChars rest := by
  cases fields with
  | nil => exact absurd rfl some
  | cons field others =>
      obtain ⟨key, value⟩ := field
      obtain ⟨wellKey, wellValue, wellOthers⟩ := well
      have behind := nestedChars_others (fieldsChars column others) rest
        (others.isEmpty = true) (fun none => by
          rw [List.isEmpty_iff.mp none]
          exact ⟨rfl, rfl⟩) (fun more => nestedChars_fieldsChars others column
            (by simpa using more) wellOthers (isLine_indentation column) rest)
      have colon : IsLine [':'] := by simp [IsLine]
      have begun : IsLine (line ++ key.toList ++ [':']) :=
        isLine_append (isLine_append h (isLine_of_isWord (isWord_of_isKey wellKey))) colon
      have first := nestedChars_value (nestedChars_chars value (column + 2) wellValue) begun
        ((if others.isEmpty = true then [] else indentation column) ++
          (fieldsChars column others ++ rest))
      rw [behind] at first
      simpa [fieldsChars] using first

theorem nestedChars_itemsChars (items : List Outline) (column : Nat) (some : items ≠ [])
    (well : AreWellItems items) {line : List Char} (h : IsLine line) (rest : List Char) :
    nestedChars (line ++ (itemsChars column items ++ rest)) =
      indentation 4 ++ line ++ itemsChars (column + 4) items ++ nestedChars rest := by
  cases items with
  | nil => exact absurd rfl some
  | cons item others =>
      obtain ⟨wellItem, wellOthers⟩ := well
      have behind := nestedChars_others (itemsChars column others) rest
        (others.isEmpty = true) (fun none => by
          rw [List.isEmpty_iff.mp none]
          exact ⟨rfl, rfl⟩) (fun more => nestedChars_itemsChars others column
            (by simpa using more) wellOthers (isLine_indentation column) rest)
      have dash : IsLine ['-', ' '] := by simp [IsLine]
      have first := nestedChars_chars item (column + 2) wellItem (isLine_append h dash)
        ((if others.isEmpty = true then [] else indentation column) ++
          (itemsChars column others ++ rest))
      rw [behind] at first
      simpa [itemsChars, Nat.add_right_comm column 2 4] using first

end

namespace NewContract

/-! ### The manifest -/

/-- A fragment of a manifest, four columns further to the right. -/
def nested (fragment : String) : String := String.ofList (nestedChars fragment.toList)

/-- A manifest with one data source for a contract. -/
def manifestText (f : Family) (kind : String) (c : NewContract) : String :=
  block ["dataSources:", s!"  - kind: {kind}", s!"    name: {c.name}"]
    ++ nested (c.source f) ++ nested (c.mapping f)

/-- The field of a source for a start block, if there is one. -/
def startField (c : NewContract) : List (String × Outline) :=
  c.startBlock?.toList.map fun n => ("startBlock", .word false (toString n))

/-- The fields of a source. -/
def sourceFields (f : Family) (c : NewContract) : List (String × Outline) :=
  match f with
  | .ethereum =>
    c.address?.toList.map (fun address => ("address", .word true address))
      ++ [("abi", .word false c.name)] ++ c.startField
  | .near => [("account", .word true (c.address?.getD c.name))] ++ c.startField
  | .tendermint =>
    c.address?.toList.map (fun address => ("address", .word false address))
      ++ [("startBlock", .word false (toString (c.startBlock?.getD 0)))]

/-- The fields of a mapping. -/
def mappingFields (f : Family) (c : NewContract) : List (String × Outline) :=
  match f with
  | .ethereum => [
      ("kind", .word false "ethereum/events"),
      ("apiVersion", .word false "0.0.7"),
      ("language", .word false "wasm/assemblyscript"),
      ("entities", .nothing),
      ("abis", .list [.mapping [
        ("name", .word false c.name), ("file", .word false s!"./abis/{c.name}.json")]]),
      ("eventHandlers", .nothing),
      ("file", .word false c.mappingFile)]
  | .near => [
      ("apiVersion", .word false "0.0.5"),
      ("language", .word false "wasm/assemblyscript"),
      ("entities", .nothing),
      ("receiptHandlers", .list [.mapping [("handler", .word false "handleReceipt")]]),
      ("file", .word false c.mappingFile)]
  | .tendermint => [
      ("apiVersion", .word false "0.0.7"),
      ("language", .word false "wasm/assemblyscript"),
      ("entities", .nothing),
      ("blockHandlers", .list [.mapping [("handler", .word false "handleBlock")]]),
      ("file", .word false c.mappingFile)]

/-- The fields of the data source. -/
def entryFields (f : Family) (kind : String) (c : NewContract) : List (String × Outline) :=
  [("kind", .word false kind), ("name", .word false c.name),
   ("source", .mapping (c.sourceFields f)), ("mapping", .mapping (c.mappingFields f))]

/-- The fields of the manifest. -/
def manifestFields (f : Family) (kind : String) (c : NewContract) : List (String × Outline) :=
  [("dataSources", .list [.mapping (c.entryFields f kind)])]

/-- A contract that a family can have: its name is one, it has the address or account that the
family asks for, and its start block fits 64 bits. -/
structure IsFor (f : Family) (c : NewContract) : Prop where
  name : IsName c.name
  address : ∀ address ∈ c.address?, f.contractProblem? address = none
  /-- An account must be given. -/
  account : f = .near → c.address? ≠ none
  startBlock : ∀ n ∈ c.startBlock?, n < twoTo 64

section

variable {f : Family} {c : NewContract}

theorem IsFor.isContract (h : c.IsFor f) : ∀ address ∈ c.address?, f.IsContract address :=
  fun address given => Family.contractProblem?_eq_none_iff.mp (h.address address given)

theorem toList_block (ls : List String) :
    (block ls).toList = ls.flatMap fun l => l.toList ++ ['\n'] := by
  rw [block, String.toList_join, List.flatMap_map]
  simp only [String.toList_append]
  rfl

/-- The first fragment is an outline. -/
theorem toList_source (h : c.IsFor f) :
    (c.source f).toList = fieldsChars 0 [("source", .mapping (c.sourceFields f))] := by
  cases given : c.address? with
  | some address =>
      have quoted := quote_of_isWord (isWord_of_isContract (h.isContract address given))
      cases begun : c.startBlock? <;> cases f <;>
        simp [source, startLine, toList_block, sourceFields, startField, given, begun, quoted,
          fieldsChars, chars, gap, isInline, wordChars, indentation, toString]
  | none =>
      have others : f ≠ .near := fun near => h.account near given
      cases begun : c.startBlock? <;> cases f <;>
        simp [source, startLine, toList_block, sourceFields, startField, given, begun,
          fieldsChars, chars, gap, isInline, wordChars, indentation, toString] at others ⊢

/-- The second fragment is an outline. -/
theorem toList_mapping :
    (c.mapping f).toList = fieldsChars 0 [("mapping", .mapping (c.mappingFields f))] := by
  cases f <;>
    simp [mapping, toList_block, mappingFields, fieldsChars, itemsChars, chars, gap, isInline,
      wordChars, indentation, toString]

/-! ### Well-formedness -/

theorem isWord_toString (n : Nat) : IsWord (toString n) := by
  have digits := Decimal.isDigits_toDigits n
  obtain ⟨c, rest, eq⟩ := List.exists_cons_of_ne_nil digits.some
  have alnum : ∀ d ∈ Nat.toDigits 10 n, d.isAlphanum = true := fun d hd =>
    Bool.or_eq_true_iff.mpr (.inr (digits.digits d hd))
  rw [eq] at alnum
  obtain ⟨first, others⟩ := List.forall_mem_cons.mp alnum
  have chars : (toString n).toList = c :: rest := Nat.toList_repr.trans eq
  exact isWord_cons chars first fun d hd => isWordChar_of_isAlphanum (others d hd)

theorem areWell_startField : AreWellFields c.startField := by
  refine areWellFields_iff.mpr fun field hf => ?_
  obtain ⟨n, -, rfl⟩ := List.mem_map.mp hf
  have key : IsKey "startBlock" := by decide
  exact ⟨key, isWord_toString n⟩

theorem areWell_sourceFields (h : c.IsFor f) : AreWellFields (c.sourceFields f) := by
  have name := h.name.isWord
  have address {isQuoted : Bool} : ∀ field ∈ c.address?.toList.map fun address =>
      ("address", Outline.word isQuoted address), IsKey field.1 ∧ field.2.IsWell := by
    intro field hf
    obtain ⟨text, given, rfl⟩ := List.mem_map.mp hf
    have key : IsKey "address" := by decide
    exact ⟨key, isWord_of_isContract (h.isContract text (Option.mem_toList.mp given))⟩
  have start := areWellFields_iff.mp (areWell_startField (c := c))
  have one {key text : String} {isQuoted : Bool} (hkey : IsKey key) (word : IsWord text) :
      ∀ field ∈ [(key, Outline.word isQuoted text)], IsKey field.1 ∧ field.2.IsWell :=
    List.forall_mem_singleton.mpr ⟨hkey, word⟩
  refine areWellFields_iff.mpr ?_
  cases f with
  | ethereum =>
      exact List.forall_mem_append.mpr
        ⟨List.forall_mem_append.mpr ⟨address, one (by decide) name⟩, start⟩
  | near =>
      obtain ⟨account, given⟩ := Option.ne_none_iff_exists'.mp (h.account rfl)
      have word : IsWord (c.address?.getD c.name) := by
        rw [given]
        exact isWord_of_isContract (h.isContract account given)
      exact List.forall_mem_append.mpr ⟨one (by decide) word, start⟩
  | tendermint =>
      exact List.forall_mem_append.mpr ⟨address, one (by decide) (isWord_toString _)⟩

theorem isWord_mappingFile (h : IsName c.name) : IsWord c.mappingFile := by
  have small : ∀ d ∈ (Text.lowercase c.name).toList, isWordChar d = true := fun d hd =>
    isWordChar_of_isAlphanum (isAlphanum_lowercase h.isAlphanum d hd)
  have begun : IsWord "./src/" := by decide
  exact isWord_append (isWord_append begun small) (List.all_eq_true.mp (by decide))

theorem isWord_abiFile (h : IsName c.name) : IsWord s!"./abis/{c.name}.json" := by
  have begun : IsWord "./abis/" := by decide
  exact isWord_append (isWord_append begun h.isWord.chars) (List.all_eq_true.mp (by decide))

theorem areWell_mappingFields (h : IsName c.name) : AreWellFields (c.mappingFields f) := by
  have file : AreWellFields [("file", .word false c.mappingFile)] :=
    ⟨by decide, isWord_mappingFile h, trivial⟩
  have word {text : String} (h : IsWord text) : (Outline.word false text).IsWell := h
  have handlers {text : String} (h : IsWord text) :
      (Outline.list [.mapping [("handler", .word false text)]]).IsWell :=
    ⟨List.cons_ne_nil _ _, ⟨List.cons_ne_nil _ _, by decide, h, trivial⟩, trivial⟩
  have abis : (Outline.list [.mapping [
      ("name", .word false c.name), ("file", .word false s!"./abis/{c.name}.json")]]).IsWell :=
    ⟨List.cons_ne_nil _ _,
      ⟨List.cons_ne_nil _ _, by decide, h.isWord, by decide, isWord_abiFile h, trivial⟩, trivial⟩
  cases f with
  | ethereum =>
      exact ⟨by decide, word (by decide), by decide, word (by decide), by decide, word (by decide),
        by decide, trivial, by decide, abis, by decide, trivial, file⟩
  | near =>
      exact ⟨by decide, word (by decide), by decide, word (by decide), by decide, trivial,
        by decide, handlers (by decide), file⟩
  | tendermint =>
      exact ⟨by decide, word (by decide), by decide, word (by decide), by decide, trivial,
        by decide, handlers (by decide), file⟩

theorem isWord_of_mem_aliases {kind : String} (h : kind ∈ f.aliases) : IsWord kind := by
  have all : ∀ kind ∈ f.aliases, IsWord kind := by cases f <;> decide
  exact all kind h

theorem isWell_source (h : c.IsFor f) : (Outline.mapping (c.sourceFields f)).IsWell := by
  refine ⟨?_, areWell_sourceFields h⟩
  cases f <;> simp [sourceFields]

theorem isWell_mapping (h : IsName c.name) : (Outline.mapping (c.mappingFields f)).IsWell := by
  refine ⟨?_, areWell_mappingFields h⟩
  cases f <;> simp [mappingFields]

/-- The manifest can be written. -/
theorem isWell_manifestFields {kind : String} (h : c.IsFor f) (hkind : kind ∈ f.aliases) :
    (Outline.mapping (c.manifestFields f kind)).IsWell := by
  have entry : (Outline.mapping (c.entryFields f kind)).IsWell :=
    ⟨List.cons_ne_nil _ _, by decide, isWord_of_mem_aliases hkind, by decide, h.name.isWord,
      by decide, isWell_source h, by decide, isWell_mapping h.name, trivial⟩
  exact ⟨List.cons_ne_nil _ _, by decide, ⟨List.cons_ne_nil _ _, entry, trivial⟩, trivial⟩

/-- A fragment that is an outline lies further to the right in the manifest. -/
theorem toList_nested {fragment key : String} {value : Outline} (hkey : IsKey key)
    (hvalue : value.IsWell) (h : fragment.toList = fieldsChars 0 [(key, value)]) :
    (nested fragment).toList = indentation 4 ++ fieldsChars 4 [(key, value)] := by
  have well : AreWellFields [(key, value)] := ⟨hkey, hvalue, trivial⟩
  have moved := nestedChars_fieldsChars [(key, value)] 0 (List.cons_ne_nil _ _) well
    (isLine_indentation 0) []
  rw [List.append_nil] at moved
  rw [nested, String.toList_ofList, h]
  exact moved.trans (List.append_nil _)

/-- **The text of a manifest** is that of an outline. -/
theorem manifestText_eq {kind : String} (h : c.IsFor f) :
    c.manifestText f kind = (Outline.mapping (c.manifestFields f kind)).text := by
  have source := toList_nested (by decide) (isWell_source h) (toList_source h)
  have mapping := toList_nested (by decide) (isWell_mapping h.name) (toList_mapping (f := f))
  rw [← String.toList_inj, manifestText, String.toList_append, String.toList_append, source,
    mapping, toList_block, Outline.text, String.toList_ofList]
  simp [manifestFields, entryFields, chars, fieldsChars, itemsChars, gap, isInline, wordChars,
    indentation, toString]

/-- **The manifest is read** as a document with the node of the outline. -/
theorem parse?_manifestText {kind : String} (h : c.IsFor f) (hkind : kind ∈ f.aliases) :
    Document.parse? (c.manifestText f kind) =
      some ⟨some (Outline.mapping (c.manifestFields f kind)).node, []⟩ := by
  rw [manifestText_eq h, Document.parse?_text (isWell_manifestFields h hkind)]

end

end NewContract

end Subgraph

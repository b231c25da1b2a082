import Mathlib.Data.Option.Basic
import Subgraph.Proofs.OutlineTokens

/-!
# OutlineDocuments — the document of the text of an outline

**`parse?_text`**: the text of an outline that begins with a mapping is read as a document whose
root is the node of the outline.

Three readings are put one behind the other.  The tokens of the text are those of the outline
(`tokens?_chars`); the tree of the tokens is that of the outline (`ofTokens?_tokens`), where three
calls for each token are enough; and as no node of it has an anchor, numbering the anchors leaves
the node of the outline (`number?_tree`).
-/

namespace Subgraph.Yaml

open Outline

/-! ### The tree of the tokens -/

namespace Tree

variable {handles : Handles}

/-- An outline does not begin with the mark of an entry, a key, a value or an end. -/
theorem begins_tokens (o : Outline) (rest : List Token) :
    begins (o.tokens ++ rest) [.blockEntry, .blockEnd] = false ∧
      begins (o.tokens ++ rest) [.key, .value, .blockEnd] = false := by
  cases o <;> exact ⟨rfl, rfl⟩

mutual

/-- The tokens of an outline are read as its tree. -/
theorem readNode_tokens (o : Outline) {fuel : Nat} (enough : 3 * o.tokens.length ≤ fuel)
    {place : Place} (block : place ≠ .flow) (rest : List Token) :
    readNode handles fuel place (o.tokens ++ rest) = some (o.tree, rest) := by
  cases o with
  | word isQuoted text =>
      obtain ⟨n, rfl⟩ : ∃ n, fuel = n + 1 := ⟨fuel - 1, by simp [tokens] at enough; omega⟩
      cases place <;> simp [tokens, tree, readNode, readProperties]
  | nothing =>
      obtain ⟨n, rfl⟩ : ∃ n, fuel = n + 2 := ⟨fuel - 2, by simp [tokens] at enough; omega⟩
      cases place <;> simp [tokens, tree, readNode, readFlowItems, readProperties]
  | mapping fields =>
      obtain ⟨n, rfl⟩ : ∃ n, fuel = n + 1 := ⟨fuel - 1, by simp [tokens] at enough; omega⟩
      have fieldsRead : readFields handles n (fieldsTokens fields ++ .blockEnd :: rest) =
          some (fieldsTrees fields, rest) :=
        readFields_tokens fields (by simp [tokens] at enough; omega) rest
      cases place with
      | flow => exact absurd rfl block
      | block => simp [tokens, tree, readNode, readProperties, fieldsRead]
      | field => simp [tokens, tree, readNode, readProperties, fieldsRead]
  | list items =>
      obtain ⟨n, rfl⟩ : ∃ n, fuel = n + 1 := ⟨fuel - 1, by simp [tokens] at enough; omega⟩
      have itemsRead : readItems handles n (itemsTokens items ++ .blockEnd :: rest) =
          some (itemsTrees items, rest) :=
        readItems_tokens items (by simp [tokens] at enough; omega) rest
      cases place with
      | flow => exact absurd rfl block
      | block => simp [tokens, tree, readNode, readProperties, itemsRead]
      | field => simp [tokens, tree, readNode, readProperties, itemsRead]

theorem readFields_tokens (fields : List (String × Outline)) {fuel : Nat}
    (enough : 3 * (fieldsTokens fields).length < fuel) (rest : List Token) :
    readFields handles fuel (fieldsTokens fields ++ .blockEnd :: rest) =
      some (fieldsTrees fields, rest) := by
  cases fields with
  | nil =>
      obtain ⟨n, rfl⟩ : ∃ n, fuel = n + 1 := ⟨fuel - 1, by omega⟩
      simp [fieldsTokens, fieldsTrees, readFields]
  | cons field others =>
      obtain ⟨key, value⟩ := field
      simp only [fieldsTokens, List.length_cons, List.length_append] at enough
      obtain ⟨n, rfl⟩ : ∃ n, fuel = n + 3 := ⟨fuel - 3, by omega⟩
      have keyRead (rest : List Token) :
          readNodeUnless handles (n + 2) .field [.key, .value, .blockEnd]
            (.scalar .plain key :: rest) = some (.scalar {} .plain key, rest) := by
        simp [readNodeUnless, begins, readNode, readProperties]
      have valueRead (rest : List Token) :
          readValue handles (n + 2) .field [.key, .value, .blockEnd]
            (.value :: (value.tokens ++ rest)) = some (value.tree, rest) := by
        rw [readValue, readNodeUnless, (begins_tokens value rest).2]
        simp only [Bool.false_eq_true, if_false]
        have enough : 3 * value.tokens.length ≤ n := by omega
        exact readNode_tokens value enough (by decide) rest
      have othersRead : readFields handles (n + 2) (fieldsTokens others ++ .blockEnd :: rest) =
          some (fieldsTrees others, rest) := readFields_tokens others (by omega) rest
      simp [fieldsTokens, fieldsTrees, readFields, keyRead, valueRead, othersRead]

theorem readItems_tokens (items : List Outline) {fuel : Nat}
    (enough : 3 * (itemsTokens items).length < fuel) (rest : List Token) :
    readItems handles fuel (itemsTokens items ++ .blockEnd :: rest) =
      some (itemsTrees items, rest) := by
  cases items with
  | nil =>
      obtain ⟨n, rfl⟩ : ∃ n, fuel = n + 1 := ⟨fuel - 1, by omega⟩
      simp [itemsTokens, itemsTrees, readItems]
  | cons item others =>
      simp only [itemsTokens, List.length_cons, List.length_append] at enough
      obtain ⟨n, rfl⟩ : ∃ n, fuel = n + 2 := ⟨fuel - 2, by omega⟩
      have itemRead (rest : List Token) :
          readNodeUnless handles (n + 1) .block [.blockEntry, .blockEnd] (item.tokens ++ rest) =
            some (item.tree, rest) := by
        rw [readNodeUnless, (begins_tokens item rest).1]
        simp only [Bool.false_eq_true, if_false]
        have enough : 3 * item.tokens.length ≤ n := by omega
        exact readNode_tokens item enough (by decide) rest
      have othersRead : readItems handles (n + 1) (itemsTokens others ++ .blockEnd :: rest) =
          some (itemsTrees others, rest) := readItems_tokens others (by omega) rest
      simp [itemsTokens, itemsTrees, readItems, itemRead, othersRead]

end

/-- **The tree of an outline's tokens.** -/
theorem ofTokens?_tokens (o : Outline) : ofTokens? o.tokens = some (some o.tree) := by
  have some : o.tokens ≠ [] := by cases o <;> simp [tokens]
  have directives : readDirectives false [] o.tokens = Option.some ([], o.tokens) := by
    cases o <;> rfl
  have read : readNode commonHandles (3 * o.tokens.length + 3) .block o.tokens =
      Option.some (o.tree, []) := by
    have whole : readNode commonHandles (3 * o.tokens.length + 3) .block (o.tokens ++ []) =
        Option.some (o.tree, []) := readNode_tokens o (Nat.le_add_right _ 3) (by decide) []
    rwa [List.append_nil] at whole
  have first (rest : List Token) (h : o.tokens = .documentStart :: rest) : False := by
    cases o <;> cases h
  rw [ofTokens?, if_neg some, readDocument, directives]
  simp [read]

/-! ### The document -/

mutual

/-- A tree without anchors keeps none. -/
theorem number?_tree (o : Outline) (names : AnchorNames) :
    number? names o.tree = some ⟨o.node, names, []⟩ := by
  cases o with
  | word isQuoted text => rfl
  | nothing => rfl
  | mapping fields =>
      rw [tree, number?, AnchorNames.enter]
      simp [numberFields?_trees fields, node, anchorEntry]
  | list items =>
      rw [tree, number?, AnchorNames.enter]
      simp [numberItems?_trees items, node, anchorEntry]

theorem numberFields?_trees (fields : List (String × Outline)) (names : AnchorNames) :
    numberFields? names (fieldsTrees fields) = some ⟨fieldsNodes fields, names, []⟩ := by
  cases fields with
  | nil => rfl
  | cons field others =>
      obtain ⟨key, value⟩ := field
      simp [fieldsTrees, fieldsNodes, numberFields?, number?_tree value,
        numberFields?_trees others, number?, AnchorNames.enter, anchorEntry]

theorem numberItems?_trees (items : List Outline) (names : AnchorNames) :
    numberItems? names (itemsTrees items) = some ⟨itemsNodes items, names, []⟩ := by
  cases items with
  | nil => rfl
  | cons item others =>
      simp [itemsTrees, itemsNodes, numberItems?, number?_tree item, numberItems?_trees others]

end

end Tree

/-! ### The characters -/

namespace Outline

/-- A character of the text of an outline. -/
def isChar (c : Char) : Bool := isWordChar c || "\n \":[]".toList.contains c

theorem all_isChar_of_isWord {text : String} (h : IsWord text) : text.toList.all isChar = true := by
  refine List.all_eq_true.mpr fun c hc => ?_
  rw [isChar, h.chars c hc]
  rfl

theorem all_isChar_indentation (column : Nat) : (indentation column).all isChar = true := by
  refine List.all_eq_true.mpr fun c hc => ?_
  rw [List.eq_of_mem_replicate hc]
  decide

theorem all_isChar_gap (column : Nat) (value : Outline) : (gap column value).all isChar = true := by
  rw [gap]
  split
  · decide
  · rw [List.all_cons, all_isChar_indentation]
    decide

theorem all_isChar_indentationUnless (last : Prop) [Decidable last] (column : Nat) :
    (if last then [] else indentation column).all isChar = true := by
  split
  · rfl
  · exact all_isChar_indentation column

mutual

theorem all_isChar_chars (o : Outline) (column : Nat) (well : o.IsWell) :
    (o.chars column).all isChar = true := by
  have marks : ['"', '\n', '[', ']'].all isChar = true := by decide
  simp only [List.all_cons, Bool.and_eq_true] at marks
  cases o with
  | word isQuoted text =>
      have word := all_isChar_of_isWord well
      cases isQuoted <;> simp [chars, wordChars, word, marks]
  | nothing => simp [chars, marks]
  | mapping fields => exact all_isChar_fieldsChars fields column well.2
  | list items => exact all_isChar_itemsChars items column well.2

theorem all_isChar_fieldsChars (fields : List (String × Outline)) (column : Nat)
    (well : AreWellFields fields) : (fieldsChars column fields).all isChar = true := by
  cases fields with
  | nil => rfl
  | cons field others =>
      obtain ⟨key, value⟩ := field
      obtain ⟨wellKey, wellValue, wellOthers⟩ := well
      have colon : isChar ':' = true := by decide
      simp only [fieldsChars, List.all_append, List.all_cons, colon, all_isChar_gap,
        all_isChar_of_isWord (isWord_of_isKey wellKey), all_isChar_chars value _ wellValue,
        all_isChar_indentationUnless, all_isChar_fieldsChars others _ wellOthers, Bool.and_self]

theorem all_isChar_itemsChars (items : List Outline) (column : Nat) (well : AreWellItems items) :
    (itemsChars column items).all isChar = true := by
  cases items with
  | nil => rfl
  | cons item others =>
      obtain ⟨wellItem, wellOthers⟩ := well
      have marks : ['-', ' '].all isChar = true := by decide
      simp only [List.all_cons, Bool.and_eq_true] at marks
      simp only [itemsChars, List.all_append, List.all_cons, marks,
        all_isChar_chars item _ wellItem, all_isChar_indentationUnless,
        all_isChar_itemsChars others _ wellOthers, Bool.and_self]

end

end Outline

/-- A document may hold the characters of an outline. -/
theorem inRanges_of_isChar {c : Char} (h : Outline.isChar c = true) :
    Text.inRanges allowedRanges c = true := by
  have marks : (['.', '/', '-', '_'] ++ "\n \":[]".toList).all
      (Text.inRanges allowedRanges) = true := by decide
  have char : c.isAlphanum = true ∨ c ∈ ['.', '/', '-', '_'] ++ "\n \":[]".toList := by
    simpa [Outline.isChar, isWordChar, or_assoc] using h
  rcases char with alnum | mark
  · obtain ⟨least, most⟩ := toNat_of_isAlphanum alnum
    exact Text.inRanges_of_mem (a := 0x20) (b := 0x7E) (by decide) least most
  · exact List.all_eq_true.mp marks c mark

theorem withFeeds_of_all {text : List Char} (h : text.all Outline.isChar = true) :
    withFeeds text = text := by
  induction text with
  | nil => rfl
  | cons c rest ih =>
      obtain ⟨char, others⟩ := Bool.and_eq_true_iff.mp h
      have carriage : c ≠ '\r' := by
        rintro rfl
        cases char
      have nextLine : c ≠ '\u0085' := by
        rintro rfl
        cases char
      rw [withFeeds, ih others, if_neg (by simp [carriage, nextLine])]
      simp [carriage]

/-- Nothing is replaced in the text of an outline. -/
theorem sourceText_of_all {text : List Char} (h : text.all Outline.isChar = true) :
    sourceText text = some text := by
  have allowed : text.all (Text.inRanges allowedRanges) = true :=
    List.all_eq_true.mpr fun c hc => inRanges_of_isChar (List.all_eq_true.mp h c hc)
  rw [sourceText, if_pos allowed, withFeeds_of_all h]

/-- **The document of an outline's text.**  Its root is the node of the outline. -/
theorem Document.parse?_text {fields : List (String × Outline)}
    (well : (Outline.mapping fields).IsWell) :
    Document.parse? (Outline.mapping fields).text =
      some ⟨some (Outline.mapping fields).node, []⟩ := by
  have source := sourceText_of_all (all_isChar_chars _ 0 well)
  rw [Document.parse?, Outline.text, String.toList_ofList, source]
  simp [tokens?_chars well, Tree.ofTokens?_tokens, Tree.number?_tree]

end Subgraph.Yaml

import Subgraph.Proofs.Scanning

/-!
# OutlineTokens — the tokens of the text of an outline

`tokens?_of_isWell`: the text of an outline that begins with a mapping is split into the tokens of
the outline.

The induction is on the outline, and it is about a `Spot` before it: what follows the outline lies
at most as deep as the innermost block there, so that the blocks of the outline end before it and no
other does (`leads_outline`).  For the fields of a mapping the first of them opens the block, and
what follows may lie at the same depth (`leads_fields`); the items of a list are alike
(`leads_items`).
-/

namespace Subgraph.Yaml

namespace Outline

/-! ### What the lines begin with -/

theorem isContent_of_isWord {text : String} (h : IsWord text) (rest : List Char) :
    IsContent (text.toList ++ rest) := by
  obtain ⟨c, cs, chars⟩ : ∃ c cs, text.toList = c :: cs :=
    List.exists_cons_of_ne_nil (by simpa using h.some)
  rw [chars]
  exact isContent_of_isWordChar (h.chars c (by simp [chars])) _

theorem isWord_of_isKey {key : String} (h : IsKey key) : IsWord key where
  some := h.some
  chars c hc := isWordChar_of_isAlphanum (h.chars c hc)
  head := by
    rintro c hc rfl
    have dash := h.chars '-' (List.mem_of_mem_head? hc)
    cases dash

theorem isContent_fieldsChars {column : Nat} {fields : List (String × Outline)} {rest : List Char}
    (some : fields ≠ []) (well : AreWellFields fields) :
    IsContent (fieldsChars column fields ++ rest) := by
  cases fields with
  | nil => exact absurd rfl some
  | cons field others =>
      rw [fieldsChars, List.append_assoc, List.append_assoc, List.append_assoc, List.append_assoc]
      exact isContent_of_isWord (isWord_of_isKey well.1) _

theorem isContent_itemsChars {column : Nat} {items : List Outline} {rest : List Char}
    (some : items ≠ []) : IsContent (itemsChars column items ++ rest) := by
  cases items with
  | nil => exact absurd rfl some
  | cons item others =>
      rw [itemsChars]
      rintro c ⟨⟩
      decide

theorem isContent_chars {o : Outline} {column : Nat} {rest : List Char} (well : o.IsWell) :
    IsContent (o.chars column ++ rest) := by
  cases o with
  | word isQuoted text =>
      rw [chars, List.append_assoc]
      cases isQuoted with
      | false => exact isContent_of_isWord well _
      | true =>
          rintro c ⟨⟩
          decide
  | nothing =>
      rintro c ⟨⟩
      decide
  | mapping fields => exact isContent_fieldsChars well.1 well.2
  | list items => exact isContent_itemsChars well.1

end Outline

namespace Spot

open Outline

variable {p : Spot} {y : List Char} {d : Nat}

theorem opened_of_le {t : Token} (h : (p.column : Int) ≤ p.indent) : p.opened t = p := if_pos h

theorem opened_of_lt {t : Token} (h : p.indent < p.column) :
    p.opened t =
      { p with found := t :: p.found, indent := p.column, outer := p.indent :: p.outer } :=
  if_neg (Int.not_le.mpr h)

/-- Behind its first part a block lies at the column of that part. -/
theorem indent_opened {t : Token} (h : p.indent ≤ p.column) : (p.opened t).indent = p.column := by
  rw [opened]
  split
  · next inside => exact Int.le_antisymm h inside
  · rfl

/-- What stands between a colon and a value is passed over. -/
theorem leads_gap {column : Nat} {value : Outline} (hy : IsContent y)
    (rest : p.rest = gap column value ++ y) (deep : p.indent < p.column)
    (right : p.indent < column) :
    ∃ c allowed, p.Leads { p with rest := y, column := c, keyAllowed := allowed } ∧
      (value.isInline = false → c = column ∧ allowed = true) ∧ p.indent < c := by
  cases inline : value.isInline with
  | true =>
      have rest : p.rest = indentation 1 ++ y := by
        rw [rest, gap, inline]
        rfl
      exact ⟨_, _, leads_indentation hy rest, nofun, by omega⟩
  | false =>
      have rest : p.rest = '\n' :: (indentation column ++ y) := by
        rw [rest, gap, inline]
        rfl
      exact ⟨_, _, leads_break hy rest, fun _ => ⟨rfl, rfl⟩, right⟩

/-- A block whose parts have been passed ends before what lies to the left of it. -/
theorem leads_ended {t : Token} {found : List Token} (hy : IsContent y)
    (deep : p.indent < p.column) (left : (d : Int) ≤ p.indent)
    (parts : p.Leads ((p.opened t).onNextLine found d y)) :
    p.Leads (p.onNextLine (.blockEnd :: found ++ [t]) d y) := by
  rw [opened_of_lt deep] at parts
  have outside : (d : Int) < p.column := Int.lt_of_le_of_lt left deep
  have ended := parts.trans (leads_close hy rfl outside)
  have same : p.onNextLine (.blockEnd :: found ++ [t]) d y =
      { p with rest := y, column := d, found := .blockEnd :: (found ++ t :: p.found)
               keyAllowed := true } := by
    simp only [onNextLine, List.cons_append, List.append_assoc, List.nil_append]
  rwa [same]

theorem onNextLine_onNextLine (p : Spot) (first second : List Token) (d₁ d₂ : Nat)
    (y₁ y₂ : List Char) :
    (p.onNextLine first d₁ y₁).onNextLine second d₂ y₂ = p.onNextLine (second ++ first) d₂ y₂ := by
  simp only [onNextLine, List.append_assoc]

/-- At the column of its block a part goes on with it. -/
theorem opened_onNextLine (indent : p.indent = d) (t : Token) (found : List Token) :
    (p.onNextLine found d y).opened t = p.onNextLine found d y :=
  opened_of_le (p := p.onNextLine found d y) (Int.le_of_eq indent.symm)

/-- Before the value of a field. -/
theorem leads_toValue {key : String} {value : Outline} {z : List Char} (hkey : IsKey key)
    (hz : IsContent z) (rest : p.rest = key.toList ++ ':' :: (gap (p.column + 2) value ++ z))
    (allowed : p.keyAllowed = true) (deep : p.indent ≤ p.column) :
    ∃ c allowed, p.Leads
        { p.opened .blockMapping with
          rest := z
          column := c
          found := [.value, .scalar .plain key, .key] ++ (p.opened .blockMapping).found
          keyAllowed := allowed } ∧
      (value.isInline = false → c = p.column + 2 ∧ allowed = true) ∧ p.column < c := by
  have gapped : atGap (gap (p.column + 2) value ++ z) = true := by
    rw [gap]
    split <;> rfl
  have indent := indent_opened (t := .blockMapping) deep
  have deepColon : (p.opened .blockMapping).indent < (p.column + key.length + 1 : Nat) := by omega
  have deepLine : (p.opened .blockMapping).indent < (p.column + 2 : Nat) := by omega
  obtain ⟨c, allowed', toValue, block, right⟩ :=
    leads_gap (p := p.behindColon key (gap (p.column + 2) value ++ z)) hz rfl deepColon deepLine
  have right : (p.opened .blockMapping).indent < c := right
  exact ⟨c, allowed', (leads_key hkey rest gapped allowed deep).trans toValue, block, by omega⟩

/-- A scanner at any place for an outline comes behind it, to `y` on the next line. -/
def Passes (o : Outline) (column d : Nat) (y : List Char) : Prop :=
  ∀ {p : Spot}, p.rest = o.chars column ++ (indentation d ++ y) →
    (o.isInline = false → p.column = column ∧ p.keyAllowed = true) → p.indent < p.column →
    (d : Int) ≤ p.indent → p.Leads (p.onNextLine o.tokens.reverse d y)

/-- Behind a field, which others may follow. -/
theorem leads_field {key : String} {value : Outline} (hkey : IsKey key) (well : value.IsWell)
    (passes : Passes value (p.column + 2) d y)
    (rest : p.rest = key.toList ++ ':' :: (gap (p.column + 2) value ++
      (chars (p.column + 2) value ++ (indentation d ++ y))))
    (allowed : p.keyAllowed = true) (deep : p.indent ≤ p.column) (left : d ≤ p.column) :
    p.Leads ((p.opened .blockMapping).onNextLine
      (value.tokens.reverse ++ [.value, .scalar .plain key, .key]) d y) := by
  have indent := indent_opened (t := .blockMapping) deep
  obtain ⟨c, allowed', toValue, block, right⟩ :=
    leads_toValue hkey (isContent_chars well) rest allowed deep
  have passed := passes
    (p := { p.opened .blockMapping with
      rest := chars (p.column + 2) value ++ (indentation d ++ y)
      column := c
      found := [.value, .scalar .plain key, .key] ++ (p.opened .blockMapping).found
      keyAllowed := allowed' }) rfl block (by simpa [indent] using right)
    (by simpa [indent] using left)
  have both := toValue.trans passed
  rw [onNextLine] at both
  rw [onNextLine, List.append_assoc]
  exact both

/-- Behind an item, which others may follow. -/
theorem leads_item {item : Outline} (well : item.IsWell) (passes : Passes item (p.column + 2) d y)
    (rest : p.rest = '-' :: ' ' :: (chars (p.column + 2) item ++ (indentation d ++ y)))
    (allowed : p.keyAllowed = true) (deep : p.indent ≤ p.column) (left : d ≤ p.column) :
    p.Leads ((p.opened .blockSequence).onNextLine (item.tokens.reverse ++ [.blockEntry]) d y) := by
  have indent := indent_opened (t := .blockSequence) deep
  have toItem := leads_dash rest (isContent_chars well) allowed deep
  have passed := passes
    (p := { p.opened .blockSequence with
      rest := chars (p.column + 2) item ++ (indentation d ++ y)
      column := p.column + 2
      found := .blockEntry :: (p.opened .blockSequence).found
      keyAllowed := true }) rfl (fun _ => ⟨rfl, rfl⟩) (by simp only [indent]; omega)
    (by simpa [indent] using left)
  have both := toItem.trans passed
  rw [onNextLine] at both
  rw [onNextLine, List.append_assoc]
  exact both

mutual

/-- From before an outline a scanner comes behind it, and finds its tokens. -/
theorem leads_outline (o : Outline) {column d : Nat} {y : List Char} (well : o.IsWell)
    (hy : IsContent y) : Passes o column d y := by
  intro p rest block deep left
  cases o with
  | word isQuoted text =>
      have rest : p.rest = wordChars isQuoted text ++ '\n' :: (indentation d ++ y) := by
        rw [rest, chars, List.append_assoc]
        rfl
      cases isQuoted with
      | false => exact leads_plain well rest hy (.inr left) deep (by omega)
      | true => exact leads_quoted well rest hy deep
  | nothing => exact leads_nothing rest hy deep
  | mapping fields =>
      obtain ⟨rfl, allowed⟩ := block rfl
      have parts := leads_fields fields well.1 well.2 hy rest allowed (Int.le_of_lt deep) (by omega)
      have found : (tokens (.mapping fields)).reverse =
          .blockEnd :: (fieldsTokens fields).reverse ++ [.blockMapping] := by simp [tokens]
      rw [found]
      exact leads_ended hy deep left parts
  | list items =>
      obtain ⟨rfl, allowed⟩ := block rfl
      have parts := leads_items items well.1 well.2 hy rest allowed (Int.le_of_lt deep) (by omega)
      have found : (tokens (.list items)).reverse =
          .blockEnd :: (itemsTokens items).reverse ++ [.blockSequence] := by simp [tokens]
      rw [found]
      exact leads_ended hy deep left parts

theorem leads_fields (fields : List (String × Outline)) {p : Spot} {d : Nat} {y : List Char}
    (some : fields ≠ []) (well : AreWellFields fields) (hy : IsContent y)
    (rest : p.rest = fieldsChars p.column fields ++ (indentation d ++ y))
    (allowed : p.keyAllowed = true) (deep : p.indent ≤ p.column) (left : d ≤ p.column) :
    p.Leads ((p.opened .blockMapping).onNextLine (fieldsTokens fields).reverse d y) := by
  cases fields with
  | nil => exact absurd rfl some
  | cons field others =>
      obtain ⟨key, value⟩ := field
      obtain ⟨wellKey, wellValue, wellOthers⟩ := well
      have indent := indent_opened (t := .blockMapping) deep
      have found : (fieldsTokens ((key, value) :: others)).reverse =
          (fieldsTokens others).reverse ++
            (value.tokens.reverse ++ [.value, .scalar .plain key, .key]) := by
        simp [fieldsTokens]
      by_cases last : others = []
      · have rest : p.rest = key.toList ++ ':' :: (gap (p.column + 2) value ++
            (chars (p.column + 2) value ++ (indentation d ++ y))) := by
          simpa [last, fieldsChars] using rest
        rw [found, last]
        exact leads_field wellKey wellValue (leads_outline value wellValue hy) rest allowed deep left
      · have rest : p.rest = key.toList ++ ':' :: (gap (p.column + 2) value ++
            (chars (p.column + 2) value ++ (indentation p.column ++
              (fieldsChars p.column others ++ (indentation d ++ y))))) := by
          simpa [last, fieldsChars] using rest
        have next := leads_fields others last wellOthers hy
          (p := (p.opened .blockMapping).onNextLine
            (value.tokens.reverse ++ [.value, .scalar .plain key, .key]) p.column
            (fieldsChars p.column others ++ (indentation d ++ y)))
          rfl rfl (Int.le_of_eq indent) left
        rw [opened_onNextLine indent, onNextLine_onNextLine, ← found] at next
        have begun : IsContent (fieldsChars p.column others ++ (indentation d ++ y)) :=
          isContent_fieldsChars last wellOthers
        exact (leads_field wellKey wellValue (leads_outline value wellValue begun) rest allowed deep
          (Nat.le_refl _)).trans next

theorem leads_items (items : List Outline) {p : Spot} {d : Nat} {y : List Char}
    (some : items ≠ []) (well : AreWellItems items) (hy : IsContent y)
    (rest : p.rest = itemsChars p.column items ++ (indentation d ++ y))
    (allowed : p.keyAllowed = true) (deep : p.indent ≤ p.column) (left : d ≤ p.column) :
    p.Leads ((p.opened .blockSequence).onNextLine (itemsTokens items).reverse d y) := by
  cases items with
  | nil => exact absurd rfl some
  | cons item others =>
      obtain ⟨wellItem, wellOthers⟩ := well
      have indent := indent_opened (t := .blockSequence) deep
      have found : (itemsTokens (item :: others)).reverse =
          (itemsTokens others).reverse ++ (item.tokens.reverse ++ [.blockEntry]) := by
        simp [itemsTokens]
      by_cases last : others = []
      · have rest : p.rest = '-' :: ' ' ::
            (chars (p.column + 2) item ++ (indentation d ++ y)) := by
          simpa [last, itemsChars] using rest
        rw [found, last]
        exact leads_item wellItem (leads_outline item wellItem hy) rest allowed deep left
      · have rest : p.rest = '-' :: ' ' :: (chars (p.column + 2) item ++
            (indentation p.column ++ (itemsChars p.column others ++ (indentation d ++ y)))) := by
          simpa [last, itemsChars] using rest
        have next := leads_items others last wellOthers hy
          (p := (p.opened .blockSequence).onNextLine (item.tokens.reverse ++ [.blockEntry])
            p.column (itemsChars p.column others ++ (indentation d ++ y)))
          rfl rfl (Int.le_of_eq indent) left
        rw [opened_onNextLine indent, onNextLine_onNextLine, ← found] at next
        have begun : IsContent (itemsChars p.column others ++ (indentation d ++ y)) :=
          isContent_itemsChars last
        exact (leads_item wellItem (leads_outline item wellItem begun) rest allowed deep
          (Nat.le_refl _)).trans next

end

end Spot

/-! ### Whole texts -/

/-- The blocks that are open at the end of a text end there. -/
theorem Scanner.run_nil {q : Spot} (rest : q.rest = []) (deep : q.indent ≤ q.column)
    (line offset fuel : Nat) :
    Scanner.run (fuel + 1) (q.scanner line offset) =
      some (Scanner.closeBlocks (-1) q.indent q.found q.outer).1.reverse := by
  have content : IsContent q.rest := by
    rw [rest]
    nofun
  have rest : (q.scanner line offset).rest = [] := rest
  have deep : (q.scanner line offset).indent ≤ (q.scanner line offset).column := deep
  rw [Scanner.run, Spot.skipGap_scanner content, Spot.dropStale_scanner]
  simp only [Option.bind_eq_bind, Option.bind_some, Scanner.unroll_of_le deep]
  rw [rest]
  rfl

/-- **The tokens of an outline's text.**  They are those of the outline. -/
theorem tokens?_chars {fields : List (String × Outline)}
    (well : (Outline.mapping fields).IsWell) :
    tokens? ((Outline.mapping fields).chars 0) = some (Outline.mapping fields).tokens := by
  let p : Spot := ⟨(Outline.mapping fields).chars 0, 0, [], -1, [], true⟩
  have right : p.indent < p.column := Int.negSucc_lt_zero 0
  have parts : p.Leads ((p.opened .blockMapping).onNextLine
      (Outline.fieldsTokens fields).reverse 0 []) :=
    Spot.leads_fields fields well.1 well.2 nofun (List.append_nil _).symm rfl
      (Int.le_of_lt right) (Nat.le_refl 0)
  rw [Spot.opened_of_lt right] at parts
  obtain ⟨line, offset, k, short, run⟩ := parts 0 0
  have fuel : p.rest.length + 1 = (p.rest.length - k) + 1 + k := by
    have : k ≤ p.rest.length := Nat.le_of_add_right_le short
    omega
  show Scanner.run (p.rest.length + 1) (p.scanner 0 0) = _
  rw [fuel, run, Scanner.run_nil rfl (Int.le_refl 0)]
  simp [Spot.onNextLine, Scanner.closeBlocks, Outline.tokens, p]

end Subgraph.Yaml

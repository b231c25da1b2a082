import Subgraph.Proofs.Layout
import Subgraph.Text.Distinct
import Subgraph.Text.Identifier
import Subgraph.Text.Quoted

/-!
# Tidy — parts of lines with matching brackets

A generated file is put together from small parts.  A part is *tidy* when it leaves the reader of
brackets as it found it, whatever comes next, and its own brackets match.  Parts that are put side
by side, or between brackets, are tidy again.

* `Reads`, `IsTidy`: the brackets of a part of a line, and tidy parts.
* `isTidy_quote`: a literal is tidy, whatever its value.
* `isWord_identifier`, `isWord_of_mem_distinctNames`, `isTidy_of_isWord`: so is each name that is
  made of free text.
-/

namespace Subgraph

open Layout Text

namespace Layout

/-- Matching brackets may stand anywhere between others. -/
theorem Balanced.insert {xs ys bs : List Bracket} (h : Balanced (xs ++ ys)) (hb : Balanced bs) :
    Balanced (xs ++ bs ++ ys) := by
  unfold Balanced at h ⊢
  rw [depth_append] at h
  rw [depth_append, depth_append]
  rcases hx : Layout.depth xs 0 with _ | n
  · rw [hx] at h
    cases h
  · rw [hx] at h
    rw [Option.bind_some, hb.depth n]
    exact h

/-! ### Parts of lines -/

/-- Read as code in the middle of a line, `text` has the brackets `bs`, and what follows is code
again. -/
structure Reads (text : String) (bs : List Bracket) : Prop where
  newline : '\n' ∉ text.toList
  code : ∀ rest, bracketsFrom .code (text.toList ++ rest) = bs ++ bracketsFrom .code rest

/-- A part of a line whose brackets match. -/
def IsTidy (text : String) : Prop := ∃ bs, Reads text bs ∧ Balanced bs

theorem Reads.append {a b : String} {xs ys : List Bracket} (ha : Reads a xs) (hb : Reads b ys) :
    Reads (a ++ b) (xs ++ ys) := by
  refine ⟨?_, fun rest => ?_⟩
  · rw [String.toList_append]
    exact fun h => (List.mem_append.mp h).elim ha.newline hb.newline
  · rw [String.toList_append, List.append_assoc, ha.code, hb.code, List.append_assoc]

theorem IsTidy.append {a b : String} (ha : IsTidy a) (hb : IsTidy b) : IsTidy (a ++ b) := by
  obtain ⟨xs, ra, hx⟩ := ha
  obtain ⟨ys, rb, hy⟩ := hb
  exact ⟨xs ++ ys, ra.append rb, hx.append hy⟩

/-- A tidy part between two that match each other. -/
theorem IsTidy.between {a b c : String} {xs ys : List Bracket} (hb : IsTidy b) (ha : Reads a xs)
    (hc : Reads c ys) (h : Balanced (xs ++ ys)) : IsTidy (a ++ b ++ c) := by
  obtain ⟨bs, rb, bb⟩ := hb
  exact ⟨xs ++ bs ++ ys, (ha.append rb).append hc, h.insert bb⟩

/-- A tidy part between brackets, behind another one. -/
theorem IsTidy.enclose {a o b c : String} (ha : IsTidy a) (hb : IsTidy b)
    (ho : Reads o [.opening]) (hc : Reads c [.closing]) : IsTidy (a ++ o ++ b ++ c) := by
  obtain ⟨xs, ra, bx⟩ := ha
  refine hb.between (ra.append ho) hc ?_
  rw [List.append_assoc]
  exact bx.append (by decide)

/-- A character that opens no literal and no comment, and ends no line. -/
def isPlain (c : Char) : Bool := !isQuote c && c != '/' && c != '\n'

/-- A text of plain characters has those of its characters as brackets that are brackets. -/
theorem reads_of_plain {text : String} {bs : List Bracket} (h : text.toList.all isPlain = true)
    (brackets : text.toList.filterMap bracket? = bs) : Reads text bs := by
  subst brackets
  have plain (c : Char) (hc : isPlain c = true) : isQuote c = false ∧ c ≠ '/' ∧ c ≠ '\n' := by
    unfold isPlain at hc
    rw [Bool.and_eq_true, Bool.and_eq_true, Bool.not_eq_true', bne_iff_ne, bne_iff_ne] at hc
    exact ⟨hc.1.1, hc.1.2, hc.2⟩
  rw [List.all_eq_true] at h
  refine ⟨fun hm => (plain _ (h _ hm)).2.2 rfl, fun rest => ?_⟩
  -- no character takes the reader out of code, so each is read on its own
  generalize text.toList = cs at h
  induction cs with
  | nil => rfl
  | cons c cs ih =>
      obtain ⟨hquote, hslash, -⟩ := plain c (h c List.mem_cons_self)
      rw [List.cons_append, bracketsFrom_cons hslash hquote,
        ih fun d hd => h d (List.mem_cons_of_mem _ hd), List.filterMap_cons]
      rcases bracket? c with _ | b <;> rfl

/-- A text is plain, and its brackets match. -/
def isPlainTidy (text : String) : Bool :=
  text.toList.all isPlain && decide (Balanced (text.toList.filterMap bracket?))

theorem isTidy_text {text : String} (h : isPlainTidy text = true) : IsTidy text := by
  unfold isPlainTidy at h
  rw [Bool.and_eq_true, decide_eq_true_eq] at h
  exact ⟨_, reads_of_plain h.1 rfl, h.2⟩

theorem isTidy_empty : IsTidy "" := isTidy_text rfl

theorem isTidy_texts {texts : List String} (h : texts.all isPlainTidy = true) :
    ∀ text ∈ texts, IsTidy text :=
  fun _ ht => isTidy_text (List.all_eq_true.mp h _ ht)

/-- Tidy parts with a tidy separator between two of them. -/
theorem isTidy_intercalate {separator : String} (hs : IsTidy separator) {texts : List String}
    (h : ∀ text ∈ texts, IsTidy text) : IsTidy (String.intercalate separator texts) := by
  induction texts with
  | nil =>
      rw [String.intercalate_nil]
      exact isTidy_empty
  | cons text texts ih =>
      have ih := ih fun t ht => h t (List.mem_cons_of_mem _ ht)
      have first := h text List.mem_cons_self
      cases texts with
      | nil =>
          rw [String.intercalate_singleton]
          exact first
      | cons next texts =>
          rw [String.intercalate_cons_cons]
          exact (first.append hs).append ih

/-! ### Literals -/

/-- What stands between the quotes of a literal leaves the reader there. -/
theorem bracketsFrom_escape (c : Char) (rest : List Char) :
    bracketsFrom (.quoted '"') (escape c ++ rest) = bracketsFrom (.quoted '"') rest := by
  unfold escape
  rcases he : escapeLetter? c with _ | letter
  · have quote : c ≠ '"' := by rintro rfl; cases he
    have backslash : c ≠ '\\' := by rintro rfl; cases he
    rw [List.cons_append, List.nil_append, bracketsFrom, if_neg backslash, if_neg quote]
  · rw [List.cons_append, List.cons_append, List.nil_append, bracketsFrom, if_pos rfl, bracketsFrom]

theorem escaped_ne (c : Char) : ∀ d ∈ escape c, d ≠ '\n' ∧ d ≠ '\r' ∧ d ≠ '\t' := by
  unfold escape
  rcases he : escapeLetter? c with _ | letter
  · refine List.forall_mem_singleton.mpr ⟨?_, ?_, ?_⟩ <;> rintro rfl <;> cases he
  · unfold escapeLetter? at he
    split at he <;> cases he <;>
      exact List.forall_mem_cons.mpr ⟨by decide, List.forall_mem_singleton.mpr (by decide)⟩

/-- A literal stands on one line, without tabs. -/
theorem quoted_ne (value : String) :
    ∀ c ∈ (quote value).toList, c ≠ '\n' ∧ c ≠ '\r' ∧ c ≠ '\t' := by
  rw [quote, String.toList_ofList, quoteChars]
  refine List.forall_mem_cons.mpr ⟨by decide, List.forall_mem_append.mpr ⟨fun d hd => ?_, ?_⟩⟩
  · obtain ⟨c, -, hd⟩ := List.mem_flatMap.mp hd
    exact escaped_ne c d hd
  · exact List.forall_mem_singleton.mpr (by decide)

/-- The reader comes out of a literal as it went in, whatever its value: no bracket is read. -/
theorem reads_quote (value : String) : Reads (quote value) [] := by
  refine ⟨fun h => (quoted_ne value _ h).1 rfl, fun rest => ?_⟩
  -- the reader is in the literal from its first quote to its last, whatever is escaped between
  rw [quote, String.toList_ofList, quoteChars, List.cons_append, List.append_assoc]
  generalize value.toList = cs
  have body : bracketsFrom (.quoted '"') (cs.flatMap escape ++ ('"' :: rest)) =
      bracketsFrom .code rest := by
    induction cs with
    | nil => rfl
    | cons c cs ih => rw [List.flatMap_cons, List.append_assoc, bracketsFrom_escape, ih]
  exact body

/-- **A literal is tidy**, whatever its value. -/
theorem isTidy_quote (value : String) : IsTidy (quote value) :=
  ⟨[], reads_quote value, balanced_nil⟩

/-! ### Names -/

/-- All characters of a text may stand in an identifier. -/
def IsWord (text : String) : Prop := ∀ c ∈ text.toList, isWordChar c = true

theorem isWord_text {text : String} (h : text.toList.all isWordChar = true) : IsWord text :=
  fun _ hc => List.all_eq_true.mp h _ hc

/-- The characters that mean something to the reader of brackets are no characters of words. -/
theorem marks_of_isWordChar {c : Char} (h : isWordChar c = true) :
    isPlain c = true ∧ bracket? c = none := by
  have ne (d : Char) (hd : isWordChar d = false) : c ≠ d := by
    rintro rfl
    rw [h] at hd
    cases hd
  constructor
  · unfold isPlain isQuote
    rw [beq_false_of_ne (ne '"' (by decide)), beq_false_of_ne (ne '\x27' (by decide)),
      beq_false_of_ne (ne '\x60' (by decide)), bne_iff_ne.mpr (ne '/' (by decide)),
      bne_iff_ne.mpr (ne '\n' (by decide))]
    rfl
  · unfold bracket?
    simp only [Bool.or_eq_true, decide_eq_true_eq]
    rw [if_neg, if_neg]
    · rintro ((h | h) | h) <;> exact ne _ (by decide) h
    · rintro ((h | h) | h) <;> exact ne _ (by decide) h

theorem isTidy_of_isWord {text : String} (h : IsWord text) : IsTidy text :=
  have plain : text.toList.all isPlain = true :=
    List.all_eq_true.mpr fun c hm => (marks_of_isWordChar (h c hm)).1
  have free : text.toList.filterMap bracket? = [] :=
    List.filterMap_eq_nil_iff.mpr fun c hm => (marks_of_isWordChar (h c hm)).2
  ⟨[], reads_of_plain plain free, balanced_nil⟩

theorem IsWord.append {a b : String} (ha : IsWord a) (hb : IsWord b) : IsWord (a ++ b) := by
  intro c hc
  rw [String.toList_append] at hc
  exact (List.mem_append.mp hc).elim (ha c) (hb c)

theorem isWord_repr (n : Nat) : IsWord n.repr := by
  intro c hc
  rw [Nat.repr_eq_ofList_toDigits, String.toList_ofList] at hc
  have digit : c.isDigit = true := Nat.isDigit_of_mem_toDigits (by decide) (by decide) hc
  unfold isWordChar Char.isAlphanum
  rw [digit, Bool.or_true]
  rfl

/-- A text in which other characters have been replaced is a word. -/
theorem isWord_map_wordChar (name : String) :
    IsWord (String.ofList (name.toList.map wordChar)) := by
  intro c hc
  rw [String.toList_ofList] at hc
  obtain ⟨d, -, rfl⟩ := List.mem_map.mp hc
  exact isWordChar_wordChar d

/-- A name that is made of free text is a word. -/
theorem isWord_identifier (name : String) {fallback : String} (h : IsWord fallback) :
    IsWord (identifier name fallback) := by
  have word := isWord_map_wordChar name
  unfold identifier
  dsimp only
  split
  · exact h
  · split
    · exact IsWord.append (isWord_text rfl) word
    · exact word

/-- What numeric suffixes keep up holds of the names that are handed out if it holds of the
requests. -/
theorem forall_mem_distinctNames {P : String → Prop}
    (suffix : ∀ {name} k, P name → P (suffixed name k)) {names : List String}
    (h : ∀ name ∈ names, P name) : ∀ name ∈ distinctNames names, P name := by
  rw [distinctNames_eq]
  generalize ([] : List String) = taken
  induction names generalizing taken with
  | nil => exact fun name hn => absurd hn List.not_mem_nil
  | cons name names ih =>
      obtain ⟨first, others⟩ := List.forall_mem_cons.mp h
      refine List.forall_mem_cons.mpr ⟨?_, ih others _⟩
      unfold distinctName
      split
      · exact suffix _ first
      · exact first

/-- Names that are handed out are words if the requests are. -/
theorem isWord_of_mem_distinctNames {names : List String} (h : ∀ name ∈ names, IsWord name) :
    ∀ name ∈ distinctNames names, IsWord name :=
  forall_mem_distinctNames (fun k hn => hn.append (isWord_repr k)) h

end Layout

end Subgraph

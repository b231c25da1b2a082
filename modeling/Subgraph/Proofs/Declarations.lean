import Subgraph.Generated.Class
import Subgraph.Proofs.Tidy

/-!
# Declarations — generated lines have matching brackets

An expression is tidy if the words in it are, and so are a statement, a member and a class over
their lines.  A file of tidy declarations can always be laid out.

* `AreTidy`: lines whose brackets match, taken together.
* `areTidy_statement`, `areTidy_member`, `areTidy_class`: what is generated is tidy if its words
  are.
* `exists_format`: a file of tidy declarations can be laid out.
-/

namespace Subgraph

open Layout

namespace Layout

/-! ### Lines -/

/-- Lines one after the other have these brackets. -/
inductive ReadsLines : List String → List Bracket → Prop
  | nil : ReadsLines [] []
  | cons {line : String} {lines : List String} {xs ys : List Bracket} :
      Reads line xs → ReadsLines lines ys → ReadsLines (line :: lines) (xs ++ ys)

/-- Lines whose brackets match. -/
def AreTidy (lines : List String) : Prop := ∃ bs, ReadsLines lines bs ∧ Balanced bs

theorem ReadsLines.append {a b : List String} {xs ys : List Bracket} (ha : ReadsLines a xs)
    (hb : ReadsLines b ys) : ReadsLines (a ++ b) (xs ++ ys) := by
  induction ha with
  | nil => exact hb
  | cons line lines ih =>
      rw [List.append_assoc]
      exact .cons line ih

theorem readsLines_singleton {line : String} {bs : List Bracket} (h : Reads line bs) :
    ReadsLines [line] bs := by
  have := ReadsLines.cons h .nil
  rwa [List.append_nil] at this

theorem areTidy_nil : AreTidy [] := ⟨[], .nil, balanced_nil⟩

theorem areTidy_line {line : String} (h : IsTidy line) : AreTidy [line] := by
  obtain ⟨bs, reads, balanced⟩ := h
  exact ⟨bs, readsLines_singleton reads, balanced⟩

theorem AreTidy.append {a b : List String} (ha : AreTidy a) (hb : AreTidy b) :
    AreTidy (a ++ b) := by
  obtain ⟨xs, ra, hx⟩ := ha
  obtain ⟨ys, rb, hy⟩ := hb
  exact ⟨xs ++ ys, ra.append rb, hx.append hy⟩

theorem areTidy_flatMap {α : Type} {f : α → List String} {xs : List α}
    (h : ∀ x ∈ xs, AreTidy (f x)) : AreTidy (xs.flatMap f) := by
  induction xs with
  | nil => exact areTidy_nil
  | cons x xs ih =>
      rw [List.flatMap_cons]
      exact (h x List.mem_cons_self).append (ih fun y hy => h y (List.mem_cons_of_mem _ hy))

/-- Tidy lines between two that match each other. -/
theorem AreTidy.between {first last : String} {body : List String} {xs ys : List Bracket}
    (hb : AreTidy body) (hf : Reads first xs) (hl : Reads last ys) (h : Balanced (xs ++ ys)) :
    AreTidy (first :: (body ++ [last])) := by
  obtain ⟨bs, rb, bb⟩ := hb
  refine ⟨xs ++ (bs ++ ys), .cons hf (rb.append (readsLines_singleton hl)), ?_⟩
  rw [← List.append_assoc]
  exact h.insert bb

/-- Groups of tidy lines with a blank line between two of them. -/
theorem areTidy_spaced {groups : List (List String)} (h : ∀ group ∈ groups, AreTidy group) :
    AreTidy (Generated.ClassDecl.spaced groups) := by
  induction groups with
  | nil => exact areTidy_nil
  | cons group groups ih =>
      have ih := ih fun g hg => h g (List.mem_cons_of_mem _ hg)
      have first := h group List.mem_cons_self
      cases groups with
      | nil => exact first
      | cons next groups => exact first.append ((areTidy_line isTidy_empty).append ih)

/-! ### Texts -/

theorem Reads.textBrackets {line : String} {bs : List Bracket} (h : Reads line bs) :
    textBrackets line.toList = bs := by
  have code := h.code []
  rw [List.append_nil, bracketsFrom, List.append_nil] at code
  rw [textBrackets_of_notMem h.newline]
  exact code

/-- Texts that are put together line by line have their brackets one after the other. -/
theorem textBrackets_lines (texts : List String) :
    textBrackets (String.intercalate "\n" texts).toList =
      texts.flatMap fun text => textBrackets text.toList := by
  rw [String.toList_intercalate, ← List.flatMap_map]
  exact textBrackets_intercalate _

theorem ReadsLines.flatMap_textBrackets {lines : List String} {bs : List Bracket}
    (h : ReadsLines lines bs) : (lines.flatMap fun line => textBrackets line.toList) = bs := by
  induction h with
  | nil => rfl
  | cons line lines ih => rw [List.flatMap_cons, line.textBrackets, ih]

/-- The brackets of a text match. -/
def IsTidyText (text : String) : Prop := Balanced (textBrackets text.toList)

theorem isTidyText_of_areTidy {lines : List String} (h : AreTidy lines) :
    IsTidyText (String.intercalate "\n" lines) := by
  obtain ⟨bs, reads, balanced⟩ := h
  unfold IsTidyText
  rwa [textBrackets_lines, reads.flatMap_textBrackets]

end Layout

namespace Generated

/-! ### Expressions -/

theorem reads_open : Reads "(" [.opening] := reads_of_plain rfl rfl

theorem reads_close : Reads ")" [.closing] := reads_of_plain rfl rfl

theorem isTidy_member {object : Expr} {name : String} (ho : IsTidy object.text)
    (hn : IsTidy name) : IsTidy (Expr.member object name).text := by
  rw [Expr.text]
  exact (ho.append (isTidy_text rfl)).append hn

theorem isTidy_element {object : Expr} (ho : IsTidy object.text) (index : Nat) :
    IsTidy (Expr.element object index).text := by
  rw [Expr.text]
  exact ho.enclose (isTidy_of_isWord (isWord_repr index)) (reads_of_plain rfl rfl)
    (reads_of_plain rfl rfl)

/-- Expressions with commas between them. -/
theorem isTidy_textList {es : List Expr} (h : ∀ e ∈ es, IsTidy e.text) :
    IsTidy (Expr.textList es) := by
  induction es with
  | nil =>
      rw [Expr.textList]
      exact isTidy_empty
  | cons e es ih =>
      have ih := ih fun x hx => h x (List.mem_cons_of_mem _ hx)
      have first := h e List.mem_cons_self
      cases es with
      | nil =>
          rw [Expr.textList]
          exact first
      | cons next es =>
          rw [Expr.textList]
          exact (first.append (isTidy_text rfl)).append ih

theorem isTidy_call {function : Expr} {arguments : List Expr} (hf : IsTidy function.text)
    (ha : ∀ e ∈ arguments, IsTidy e.text) : IsTidy (Expr.call function arguments).text := by
  rw [Expr.text]
  exact hf.enclose (isTidy_textList ha) reads_open reads_close

theorem isTidy_make {type : String} {arguments : List Expr} (ht : IsTidy type)
    (ha : ∀ e ∈ arguments, IsTidy e.text) : IsTidy (Expr.make type arguments).text := by
  rw [Expr.text]
  exact ((isTidy_text rfl).append ht).enclose (isTidy_textList ha) reads_open reads_close

theorem isTidy_list {items : List Expr} (h : ∀ e ∈ items, IsTidy e.text) :
    IsTidy (Expr.list items).text := by
  rw [Expr.text]
  exact (isTidy_textList h).between (reads_of_plain rfl rfl : Reads "[" [.opening])
    (reads_of_plain rfl rfl : Reads "]" [.closing]) (by decide)

theorem isTidy_equals {left right : Expr} (hl : IsTidy left.text) (hr : IsTidy right.text) :
    IsTidy (Expr.equals left right).text := by
  rw [Expr.text]
  exact (hl.append (isTidy_text rfl)).append hr

theorem isTidy_send {object : Expr} {name : String} {arguments : List Expr}
    (ho : IsTidy object.text) (hn : IsTidy name) (ha : ∀ e ∈ arguments, IsTidy e.text) :
    IsTidy (object.send name arguments).text :=
  isTidy_call (isTidy_member ho hn) ha

/-! ### Statements -/

/-- The words of a statement are tidy. -/
def Statement.IsTidy : Statement → Prop
  | .declare name value => Layout.IsTidy name ∧ Layout.IsTidy value.text
  | .declareCall name function arguments items =>
    Layout.IsTidy name ∧ Layout.IsTidy function.text ∧ (∀ e ∈ arguments, Layout.IsTidy e.text) ∧
      ∀ e ∈ items, Layout.IsTidy e.text
  | .assign target value => Layout.IsTidy target.text ∧ Layout.IsTidy value.text
  | .perform e | .give e => Layout.IsTidy e.text
  | .giveIf condition value => Layout.IsTidy condition.text ∧ Layout.IsTidy value.text
  | .gap => True

theorem areTidy_itemLines {items : List Expr} (h : ∀ e ∈ items, IsTidy e.text) :
    AreTidy (Statement.itemLines items) := by
  induction items with
  | nil => exact areTidy_nil
  | cons item items ih =>
      have ih := ih fun e he => h e (List.mem_cons_of_mem _ he)
      have first := h item List.mem_cons_self
      cases items with
      | nil => exact areTidy_line first
      | cons next items =>
          exact (areTidy_line (first.append (isTidy_text rfl))).append ih

theorem reads_begin : Reads " \x7b" [.opening] := reads_of_plain rfl rfl

theorem reads_end : Reads "\x7d" [.closing] := reads_of_plain rfl rfl

/-- Tidy lines in a block with a tidy heading. -/
theorem areTidy_block {heading : String} {body : List String} (hh : IsTidy heading)
    (hb : AreTidy body) : AreTidy ((heading ++ " \x7b") :: (body ++ ["\x7d"])) := by
  obtain ⟨bs, reads, balanced⟩ := hh
  refine hb.between (reads.append reads_begin) reads_end ?_
  rw [List.append_assoc]
  exact balanced.append (by decide)

/-- **A statement with tidy words is tidy.** -/
theorem areTidy_statement {s : Statement} (h : s.IsTidy) : AreTidy s.lines := by
  cases s with
  | declare name value =>
      exact areTidy_line (((((isTidy_text rfl).append h.1).append
        (isTidy_text rfl)).append h.2).append (isTidy_text rfl))
  | declareCall name function arguments items =>
      obtain ⟨hname, hfunction, harguments, hitems⟩ := h
      obtain ⟨xs, rx, hx⟩ := ((((isTidy_text rfl : IsTidy "let ").append hname).append
        (isTidy_text rfl : IsTidy " = ")).append hfunction)
      obtain ⟨ys, ry, hy⟩ := isTidy_textList harguments
      -- the bracket of the call and that of its list stay open over the items
      refine (areTidy_itemLines hitems).between (((rx.append reads_open).append ry).append
        (reads_of_plain rfl rfl : Reads ", [" [.opening]))
        (reads_of_plain rfl rfl : Reads "]);" [.closing, .closing]) ?_
      have inner : Balanced ([.opening] ++ ys ++ [.opening, .closing, .closing]) :=
        Balanced.insert (by decide) hy
      rw [List.append_assoc xs, List.append_assoc xs, List.append_assoc xs]
      refine hx.append ?_
      rw [List.append_assoc]
      exact inner
  | assign target value =>
      exact areTidy_line (((h.1.append (isTidy_text rfl)).append h.2).append
        (isTidy_text rfl))
  | perform e => exact areTidy_line (IsTidy.append h (isTidy_text rfl))
  | give e =>
      exact areTidy_line (((isTidy_text rfl).append h).append (isTidy_text rfl))
  | giveIf condition value =>
      obtain ⟨bs, reads, balanced⟩ := h.1
      have body : AreTidy ["return " ++ value.text ++ ";"] :=
        areTidy_line (((isTidy_text rfl).append h.2).append (isTidy_text rfl))
      -- the heading closes the bracket of the condition and opens that of the block
      refine body.between (((reads_of_plain rfl rfl : Reads "if (" [.opening]).append reads).append
        (reads_of_plain rfl rfl : Reads ") \x7b" [.closing, .opening])) reads_end ?_
      rw [List.append_assoc]
      exact (by decide : Balanced ([.opening] ++ [.closing, .opening, .closing])).insert balanced
  | gap => exact areTidy_line isTidy_empty

/-! ### Members and classes -/

theorem areTidy_statements {body : List Statement} (h : ∀ s ∈ body, s.IsTidy) :
    AreTidy (body.flatMap Statement.lines) :=
  areTidy_flatMap fun s hs => areTidy_statement (h s hs)

/-- The words of a parameter are tidy. -/
structure Parameter.IsTidy (p : Parameter) : Prop where
  name : Layout.IsTidy p.name
  type : Layout.IsTidy p.type

theorem isTidy_parameterText {ps : List Parameter} (h : ∀ p ∈ ps, p.IsTidy) :
    IsTidy (Member.parameterText ps) := by
  refine IsTidy.between ?_ reads_open reads_close (by decide)
  refine isTidy_intercalate (isTidy_text rfl) fun text ht => ?_
  obtain ⟨p, hp, rfl⟩ := List.mem_map.mp ht
  obtain ⟨name, type⟩ := h p hp
  exact (name.append (isTidy_text rfl)).append type

/-- The words of a member are tidy. -/
def Member.IsTidy : Member → Prop
  | .constant name type value =>
    Layout.IsTidy name ∧ Layout.IsTidy type ∧ Layout.IsTidy value.text
  | .field name type => Layout.IsTidy name ∧ Layout.IsTidy type
  | .maker parameters body => (∀ p ∈ parameters, p.IsTidy) ∧ ∀ s ∈ body, s.IsTidy
  | .getter name type body => Layout.IsTidy name ∧ Layout.IsTidy type ∧ ∀ s ∈ body, s.IsTidy
  | .method name parameters type body | .function name parameters type body =>
    Layout.IsTidy name ∧ (∀ p ∈ parameters, p.IsTidy) ∧ Layout.IsTidy type ∧
      ∀ s ∈ body, s.IsTidy

/-- **A member with tidy words is tidy.** -/
theorem areTidy_member {m : Member} (h : m.IsTidy) : AreTidy m.lines := by
  cases m with
  | constant name type value =>
      obtain ⟨hname, htype, hvalue⟩ := h
      exact areTidy_line (((((((isTidy_text rfl).append hname).append
        (isTidy_text rfl)).append htype).append (isTidy_text rfl)).append
        hvalue).append (isTidy_text rfl))
  | field name type =>
      exact areTidy_line (((h.1.append (isTidy_text rfl)).append h.2).append
        (isTidy_text rfl))
  | maker parameters body =>
      exact areTidy_block ((isTidy_text rfl).append (isTidy_parameterText h.1))
        (areTidy_statements h.2)
  | getter name type body =>
      obtain ⟨hname, htype, hbody⟩ := h
      exact areTidy_block ((((isTidy_text rfl).append hname).append
        (isTidy_text rfl)).append htype) (areTidy_statements hbody)
  | method name parameters type body =>
      obtain ⟨hname, hparameters, htype, hbody⟩ := h
      exact areTidy_block (((hname.append (isTidy_parameterText hparameters)).append
        (isTidy_text rfl)).append htype) (areTidy_statements hbody)
  | function name parameters type body =>
      obtain ⟨hname, hparameters, htype, hbody⟩ := h
      exact areTidy_block (((((isTidy_text rfl).append hname).append
        (isTidy_parameterText hparameters)).append (isTidy_text rfl)).append htype)
        (areTidy_statements hbody)

/-- The words of a class are tidy. -/
structure ClassDecl.IsTidy (c : ClassDecl) : Prop where
  name : Layout.IsTidy c.name
  base : ∀ base ∈ c.base?, Layout.IsTidy base
  members : ∀ m ∈ c.members, m.IsTidy

/-- **A class with tidy words is tidy.** -/
theorem areTidy_class {c : ClassDecl} (h : c.IsTidy) : AreTidy c.lines := by
  have members : AreTidy (ClassDecl.spaced (c.members.map Member.lines)) := by
    refine areTidy_spaced fun group hg => ?_
    obtain ⟨m, hm, rfl⟩ := List.mem_map.mp hg
    exact areTidy_member (h.members m hm)
  obtain ⟨name, base?, ms⟩ := c
  have heading : IsTidy ("export class " ++ name) := (isTidy_text rfl).append h.name
  cases base? with
  | none => exact areTidy_block heading members
  | some base =>
      exact areTidy_block ((heading.append (isTidy_text rfl)).append (h.base base rfl))
        members

/-- Classes that are written together are tidy if each is. -/
theorem isTidyText_declarationText {classes : List ClassDecl} (h : ∀ c ∈ classes, c.IsTidy) :
    IsTidyText (declarationText classes) := by
  refine isTidyText_of_areTidy (areTidy_spaced fun group hg => ?_)
  obtain ⟨c, hc, rfl⟩ := List.mem_map.mp hg
  exact areTidy_class (h c hc)

/-! ### Files -/

/-- A line that imports tidy names from the library of bindings. -/
theorem isTidyText_importLine {names : List String} (h : ∀ name ∈ names, IsTidy name) :
    IsTidyText (importLine names bindingLibrary) := by
  -- the library stands in quotes, so the end of the line is code again
  have quoted : Reads (" \x7d from \"" ++ (bindingLibrary ++ "\";")) [.closing] :=
    ⟨by decide, fun rest => rfl⟩
  have joined := isTidy_intercalate (isTidy_text rfl : IsTidy ", ") h
  obtain ⟨bs, reads, balanced⟩ := joined.between
    (reads_of_plain rfl rfl : Reads "import \x7b " [.opening]) quoted (by decide)
  rw [importLine, String.append_assoc, String.append_assoc]
  unfold IsTidyText
  rwa [reads.textBrackets]

/-- **A file of tidy declarations can be laid out.** -/
theorem exists_format {imports declarations : List String}
    (hi : ∀ text ∈ imports, IsTidyText text) (hd : ∀ text ∈ declarations, IsTidyText text) :
    ∃ text, Layout.format (looseText imports declarations) = .ok text := by
  rw [format_isOk_iff, looseText, textBrackets_lines, List.flatMap_cons, List.flatMap_append]
  have note : textBrackets generatedNote.toList = [] := by decide
  have all (texts : List String) (h : ∀ text ∈ texts, IsTidyText text) :
      Balanced (texts.flatMap fun text => textBrackets text.toList) := by
    induction texts with
    | nil => exact balanced_nil
    | cons text texts ih =>
        rw [List.flatMap_cons]
        exact (h text List.mem_cons_self).append (ih fun t ht => h t (List.mem_cons_of_mem _ ht))
  rw [note, List.nil_append]
  exact (all imports hi).append (all declarations hd)

theorem exists_moduleText {imports declarations : List String}
    (hi : ∀ text ∈ imports, IsTidyText text) (hd : ∀ text ∈ declarations, IsTidyText text) :
    ∃ text, moduleText imports declarations = .ok text := by
  obtain ⟨text, h⟩ := exists_format hi hd
  exact ⟨text, by rw [moduleText, h]; rfl⟩

end Generated

end Subgraph

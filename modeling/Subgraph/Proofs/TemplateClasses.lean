import Mathlib.Data.List.Nodup
import Subgraph.Build
import Subgraph.Proofs.CheckedNames
import Subgraph.Proofs.Identifiers
import Subgraph.Proofs.KeptLines
import Subgraph.Proofs.PascalCase

/-!
# TemplateClasses — the names in the file with the classes of templates

The file with the classes of templates declares a class for each, next to what it imports.  Here its
names are read off its text.  The classes are made one by one, and nothing compares the name of one
with those of the others, or with what is imported.

* `Clause`, `classesIn`, `importsIn`: what a generated text declares and imports.
* `Clause.namesIn_declarationText`: what the text of a class makes known, line by line.
* `classesIn_templatesText`, `importsIn_templatesText`: the file declares one class for each
  template, in order.
* `className_inj`: two templates have one class name just when they have the same word, which is
  what is left of a name without separators and the case of the letters behind them.
* `nodup_templateClasses_iff`: the names in the file differ just when the words do, and no word is
  imported.
* `not_nodup_templateClasses_pairs`: the names in a valid manifest may differ while the words do
  not.
-/

namespace Subgraph

open Layout Generated Text

/-! ### Names in generated texts -/

namespace Layout

/-- A line as a text of its own. -/
theorem contents_line {line : List Char} (newline : '\n' ∉ line) :
    contents (lines line) = contents [line] := by
  rw [contents_lines, pieces_of_notMem newline]

end Layout

namespace Generated

/-- A sort of line that makes names known: the word at its start, and the names behind that. -/
structure Clause where
  word : String
  names : List Char → List String

namespace Clause

/-- The names that a line makes known. -/
def namesOf (k : Clause) (line : List Char) : List String :=
  if k.word.toList <+: line then k.names (line.drop k.word.toList.length) else []

/-- The names that a text makes known, in order. -/
def namesIn (k : Clause) (text : String) : List String :=
  (contents (lines text.toList)).flatMap k.namesOf

/-- Lines that declare a class. -/
def declaring : Clause where
  word := "export class "
  names rest := [String.ofList (rest.takeWhile isWordChar)]

/-- Lines that import names. -/
def importing : Clause where
  word := "import \x7b "
  names rest := (pieces ',' (rest.takeWhile (· ≠ '\x7d'))).map fun name => String.ofList (trim name)

variable (k : Clause)

/-- The layout leaves the names of a text alone. -/
theorem namesIn_format {source text : String} (h : format source = .ok text) :
    k.namesIn text = k.namesIn source := by
  unfold namesIn
  rw [contents_format h]

/-- Texts that are put together line by line make known what each of them does. -/
theorem namesIn_intercalate (texts : List String) :
    k.namesIn (String.intercalate "\n" texts) = texts.flatMap k.namesIn := by
  unfold namesIn
  simp only [contents_lines]
  rw [String.toList_intercalate, show "\n".toList = ['\n'] from rfl, contents_intercalate,
    List.flatMap_assoc, List.flatMap_map]

/-- No line that begins like this begins with the word. -/
def IsApart (start : String) : Prop :=
  start.toList.head?.any isBlank = false ∧
    ¬ k.word.toList <+: start.toList ∧ ¬ start.toList <+: k.word.toList

instance (start : String) : Decidable (k.IsApart start) :=
  inferInstanceAs (Decidable (_ ∧ _ ∧ _))

variable {k} in
/-- A line that begins like this makes nothing known. -/
theorem IsApart.namesIn {start line : String} (h : k.IsApart start)
    (begins : start.toList <+: line.toList) (newline : '\n' ∉ line.toList) :
    k.namesIn line = [] := by
  obtain ⟨text, word, other⟩ := h
  -- trimming leaves the start of the line alone
  have trimmed : trim line.toList <+: line.toList := by
    have whole : trimStart line.toList = line.toList := by
      obtain ⟨rest, hr⟩ := begins
      have some : start.toList ≠ [] := fun none => other (none.symm ▸ List.nil_prefix)
      obtain ⟨d, ds, hs⟩ := List.exists_cons_of_ne_nil some
      refine trimStart_of_head? fun c hc => ?_
      rw [← hr, hs] at hc
      rw [hs] at text
      cases hc
      exact text
    have kept := trim_prefix_trimStart line.toList
    rwa [whole] at kept
  have none : k.namesOf (trim line.toList) = [] := by
    refine if_neg fun inside => ?_
    exact (List.prefix_or_prefix_of_prefix (inside.trans trimmed) begins).elim word other
  unfold Clause.namesIn
  rw [contents_line newline]
  by_cases blank : trim line.toList = []
  · rw [contents_blank blank]
    rfl
  · rw [contents_text blank, List.flatMap_cons, none]
    rfl

theorem isApart_of_head? {start : String} {c d : Char} (hd : k.word.toList.head? = some d)
    (hc : start.toList.head? = some c) (text : isBlank c = false) (other : d ≠ c) :
    k.IsApart start := by
  refine ⟨by rw [hc]; exact text, ?_, ?_⟩
  · rintro ⟨rest, same⟩
    rw [← same, List.head?_append, hd] at hc
    exact other (Option.some.inj hc)
  · rintro ⟨rest, same⟩
    rw [← same, List.head?_append, hc] at hd
    exact other (Option.some.inj hd).symm

/-- A line with the word at its start, and something other than a blank at its end, makes known the
names behind the word. -/
theorem namesIn_of_word {line text ending : String} {c d : Char}
    (hd : k.word.toList.head? = some d) (first : isBlank d = false)
    (hc : ending.toList.getLast? = some c) (last : isBlank c = false)
    (eq : line = k.word ++ (text ++ ending)) (newline : '\n' ∉ line.toList) :
    k.namesIn line = k.names (text ++ ending).toList := by
  have same : line.toList = k.word.toList ++ (text ++ ending).toList := by
    rw [eq, String.toList_append]
  have trimmed : IsTrimmed line.toList := by
    refine ⟨fun c' hc' => ?_, fun c' hc' => ?_⟩
    · rw [same, List.head?_append, hd] at hc'
      cases hc'
      exact first
    · rw [same, String.toList_append, ← List.append_assoc, List.getLast?_append, hc] at hc'
      cases hc'
      exact last
  have some : trim line.toList ≠ [] := by
    rw [trim_of_isTrimmed trimmed, same]
    intro none
    rw [(List.append_eq_nil_iff.mp none).1] at hd
    cases hd
  unfold namesIn
  rw [contents_line newline, contents_text some, trim_of_isTrimmed trimmed, List.flatMap_cons,
    namesOf, same, if_pos (List.prefix_append _ _), List.drop_left]
  exact List.append_nil _

/-- The class behind the word is named up to the first character that is in no word. -/
theorem names_declaring {name rest : String} (word : IsWord name)
    (stop : ∀ c ∈ rest.toList.head?, isWordChar c = false) :
    declaring.names (name ++ rest).toList = [name] := by
  have none : rest.toList.takeWhile isWordChar = [] := by
    cases hr : rest.toList with
    | nil => rfl
    | cons c cs =>
        have other := stop c (by rw [hr]; rfl)
        exact List.takeWhile_cons_of_neg (by rw [other]; exact Bool.false_ne_true)
  have own : (name ++ rest).toList.takeWhile isWordChar = name.toList := by
    rw [String.toList_append, List.takeWhile_append_of_pos word, none, List.append_nil]
  change [String.ofList _] = _
  rw [own, String.ofList_toList]

end Clause

/-- The names of the classes that a text declares, in order. -/
def classesIn (text : String) : List String := Clause.declaring.namesIn text

/-- The names that a text imports. -/
def importsIn (text : String) : List String := Clause.importing.namesIn text

end Generated

/-! ### The text of a class -/

namespace Layout

theorem ReadsLines.newline_notMem {ls : List String} {bs : List Bracket} (h : ReadsLines ls bs) :
    ∀ line ∈ ls, '\n' ∉ line.toList := by
  induction h with
  | nil => exact nofun
  | cons line _ ih => exact List.forall_mem_cons.mpr ⟨line.newline, ih⟩

end Layout

namespace Generated

theorem ClassDecl.mem_spaced_of_mem {groups : List (List String)} {group : List String}
    {line : String} (hg : group ∈ groups) (hl : line ∈ group) : line ∈ spaced groups := by
  induction groups with
  | nil => cases hg
  | cons first groups ih =>
      cases groups with
      | nil =>
          rw [List.mem_singleton.mp hg] at hl
          exact hl
      | cons next groups =>
          rcases List.mem_cons.mp hg with rfl | hg
          · exact List.mem_append_left _ hl
          · exact List.mem_append_right _ (List.mem_cons_of_mem _ (ih hg))

/-- The lines of its members are lines of the class. -/
theorem ClassDecl.mem_lines_of_mem {c : ClassDecl} {m : Member} {line : String}
    (hm : m ∈ c.members) (hl : line ∈ m.lines) : line ∈ c.lines :=
  List.mem_cons_of_mem _ (List.mem_append_left _
    (ClassDecl.mem_spaced_of_mem (List.mem_map_of_mem hm) hl))

namespace Clause

variable (k : Clause)

theorem namesIn_spaced (groups : List (List String)) :
    (ClassDecl.spaced groups).flatMap k.namesIn =
      groups.flatMap fun group => group.flatMap k.namesIn := by
  induction groups with
  | nil => rfl
  | cons group groups ih =>
      cases groups with
      | nil => exact (List.append_nil _).symm
      | cons next groups =>
          have blank : k.namesIn "" = [] := rfl
          rw [ClassDecl.spaced, List.flatMap_append, List.flatMap_cons, blank, List.nil_append, ih]
          rfl

/-- **The text of a class** makes known what its heading and the lines of its members do. -/
theorem namesIn_declarationText (c : ClassDecl) : k.namesIn (declarationText [c]) =
    k.namesIn c.heading ++ (c.members.flatMap fun m => m.lines.flatMap k.namesIn) ++
      k.namesIn "\x7d" := by
  refine (k.namesIn_intercalate c.lines).trans ?_
  rw [ClassDecl.lines, List.flatMap_cons, List.flatMap_append, namesIn_spaced, List.flatMap_map,
    List.append_assoc]
  exact congrArg _ (congrArg _ (List.append_nil _))

end Clause

end Generated

/-! ### The class of a template -/

namespace TemplateStyle

variable {style : TemplateStyle} {template : String}

/-- The characters that the lines of the class may begin with, but for its heading. -/
def bodyStarts : List Char := ['s', 'D', '\x7d']

theorem isBlank_of_mem_bodyStarts {c : Char} (h : c ∈ bodyStarts) : isBlank c = false := by
  have all : bodyStarts.all (!isBlank ·) = true := rfl
  exact Bool.not_eq_true' _ ▸ List.all_eq_true.mp all c h

theorem head?_of_mem_makerFunction {function : String} {others : List Parameter} :
    ∀ line ∈ (style.makerFunction function template others).lines,
      ∃ c ∈ bodyStarts, line.toList.head? = some c := by
  simp [bodyStarts, makerFunction, Member.lines, Member.block, Statement.lines, Expr.send,
    Expr.text]

theorem isWord_className (template : String) : IsWord (className template) :=
  isWord_identifier _ (isWord_text rfl)

/-- What the class makes known, its heading does. -/
theorem namesIn_templateClass {k : Clause} {d : Char} (hd : k.word.toList.head? = some d)
    (other : d ∉ bodyStarts) (tidy : style.IsTidy) :
    k.namesIn (declarationText [style.templateClass template]) =
      k.namesIn (style.templateClass template).heading := by
  -- the template's name stands in a literal, so it starts no line of its own
  obtain ⟨bs, reads, -⟩ := areTidy_class (isTidy_templateClass tidy template)
  have silent {line : String} (hl : line ∈ (style.templateClass template).lines)
      (begins : ∃ c ∈ bodyStarts, line.toList.head? = some c) : k.namesIn line = [] := by
    obtain ⟨c, hc, first⟩ := begins
    have apart : k.IsApart line := k.isApart_of_head? hd first (isBlank_of_mem_bodyStarts hc)
      fun same => other (same ▸ hc)
    exact apart.namesIn List.prefix_rfl (reads.newline_notMem line hl)
  have members : ((style.templateClass template).members.flatMap fun m =>
      m.lines.flatMap k.namesIn) = [] := by
    refine List.flatMap_eq_nil_iff.mpr fun m hm => List.flatMap_eq_nil_iff.mpr fun line hl => ?_
    refine silent (ClassDecl.mem_lines_of_mem hm hl) ?_
    rcases List.mem_pair.mp hm with rfl | rfl
    · exact head?_of_mem_makerFunction line hl
    · exact head?_of_mem_makerFunction line hl
  have closing : k.namesIn "\x7d" = [] := by
    refine silent (List.mem_cons_of_mem _ (List.mem_append_right _ List.mem_cons_self)) ?_
    exact ⟨'\x7d', by decide, rfl⟩
  rw [k.namesIn_declarationText, members, closing, List.append_nil, List.append_nil]

theorem heading_templateClass (style : TemplateStyle) (template : String) :
    (style.templateClass template).heading =
      Clause.declaring.word ++ (className template ++ " extends DataSourceTemplate \x7b") := by
  simp only [ClassDecl.heading, templateClass, Clause.declaring, String.append_assoc]
  rfl

theorem newline_notMem_heading (tidy : style.IsTidy) :
    '\n' ∉ (style.templateClass template).heading.toList := by
  obtain ⟨bs, reads, -⟩ := areTidy_class (isTidy_templateClass tidy template)
  exact reads.newline_notMem _ List.mem_cons_self

theorem classesIn_templateClass (tidy : style.IsTidy) (template : String) :
    classesIn (declarationText [style.templateClass template]) = [className template] := by
  have named := Clause.namesIn_of_word .declaring rfl rfl rfl rfl
    (heading_templateClass style template) (newline_notMem_heading tidy)
  unfold classesIn
  rw [namesIn_templateClass rfl (by decide) tidy, named]
  exact Clause.names_declaring (isWord_className template) (by rintro c ⟨⟩; decide)

theorem importsIn_templateClass (tidy : style.IsTidy) (template : String) :
    importsIn (declarationText [style.templateClass template]) = [] := by
  have apart : Clause.importing.IsApart Clause.declaring.word := by decide
  unfold importsIn
  rw [namesIn_templateClass rfl (by decide) tidy]
  refine apart.namesIn ?_ (newline_notMem_heading tidy)
  rw [heading_templateClass, String.toList_append]
  exact List.prefix_append _ _

/-! ### What is imported -/

/-- The import lines of a style declare nothing. -/
theorem classesIn_importLines {f : Family} (present : f.templateStyle = .present style) :
    style.importLines.flatMap classesIn = [] := by
  cases f <;> cases present <;> decide +kernel

theorem importsIn_importLines {f : Family} (present : f.templateStyle = .present style) :
    style.importLines.flatMap importsIn = style.imports := by
  cases f <;> cases present <;> decide +kernel

end TemplateStyle

/-! ### The file -/

/-- A generated file makes known what its imports and its declarations do. -/
theorem Generated.Clause.namesIn_moduleText (k : Clause) {d : Char}
    (hd : k.word.toList.head? = some d) (other : d ≠ '/') {imports declarations : List String}
    {text : String} (made : moduleText imports declarations = .ok text) :
    k.namesIn text = imports.flatMap k.namesIn ++ declarations.flatMap k.namesIn := by
  have laid : format (looseText imports declarations) = .ok text := by
    unfold moduleText at made
    rcases hf : format (looseText imports declarations) with e | t
    · rw [hf] at made
      cases made
    · rw [hf] at made
      cases made
      rfl
  have note : k.namesIn generatedNote = [] :=
    (k.isApart_of_head? hd rfl rfl other).namesIn List.prefix_rfl (by decide)
  rw [k.namesIn_format laid, looseText, k.namesIn_intercalate, List.flatMap_cons, note,
    List.nil_append, List.flatMap_append]

namespace Build

variable {f : Family} {style : TemplateStyle} {templates : List Entry} {text : String}

/-- The templates need the same line, so that it comes once. -/
theorem eraseDups_importLines (style : TemplateStyle) (templates : List Entry) :
    (templates.flatMap fun _ => style.importLines).eraseDups =
      if templates = [] then [] else style.importLines := by
  cases templates with
  | nil => rfl
  | cons template templates =>
      have same : ∀ line ∈ templates.flatMap fun _ => style.importLines,
          line = importLine style.imports bindingLibrary := by
        intro line hl
        obtain ⟨_, -, hl⟩ := List.mem_flatMap.mp hl
        exact List.mem_singleton.mp hl
      rw [List.flatMap_cons, TemplateStyle.importLines, List.singleton_append, List.eraseDups_cons,
        List.filter_eq_nil_iff.mpr fun line hl => by simp [same line hl]]
      rfl

section

variable (present : f.templateStyle = .present style) (made : templatesText f templates = .ok text)
include present made

/-- The file makes known what the imports and the class of each template do. -/
theorem namesIn_templatesText {k : Clause} {d : Char} (hd : k.word.toList.head? = some d)
    (other : d ≠ '/') : k.namesIn text =
      (if templates = [] then [] else style.importLines.flatMap k.namesIn) ++
        templates.flatMap fun template =>
          k.namesIn (declarationText [style.templateClass template.name]) := by
  rw [templatesText_of_style present, eraseDups_importLines] at made
  rw [k.namesIn_moduleText hd other made, List.flatMap_map]
  split <;> rfl

/-- **The file declares the class of each template**, in order, and no others. -/
theorem classesIn_templatesText :
    classesIn text = templates.map fun template => TemplateStyle.className template.name := by
  have tidy := TemplateStyle.isTidy_of_templateStyle present
  have imports := TemplateStyle.classesIn_importLines present
  have classes := TemplateStyle.classesIn_templateClass tidy
  unfold classesIn at imports classes ⊢
  rw [namesIn_templatesText present made rfl (by decide), imports, ite_self, List.nil_append]
  simp only [classes]
  exact List.map_eq_flatMap.symm

/-- **The file imports what its style needs**, once. -/
theorem importsIn_templatesText :
    importsIn text = if templates = [] then [] else style.imports := by
  have tidy := TemplateStyle.isTidy_of_templateStyle present
  have imports := TemplateStyle.importsIn_importLines present
  have classes := TemplateStyle.importsIn_templateClass tidy
  unfold importsIn at imports classes ⊢
  rw [namesIn_templatesText present made rfl (by decide), imports]
  simp only [classes]
  rw [List.flatMap_eq_nil_iff.mpr fun _ _ => rfl, List.append_nil]

end

end Build

/-! ### Words of names -/

namespace TemplateStyle

/-- What is left of a template's name in the name of its class: its letters and digits, the first of
each run in upper case. -/
def classWord (template : String) : String :=
  if pascalCase template = "" then "Template" else pascalCase template

/-- A class name is marked by its first character. -/
theorem isMarked_pascalCase {text : String} (any : pascalCase text ≠ "") :
    IsMarked (pascalCase text) := by
  obtain ⟨c, cs, hc⟩ := List.exists_cons_of_ne_nil (mt String.toList_eq_nil_iff.mp any)
  exact ⟨c, by rw [hc]; exact List.mem_cons_self, isLower_head_pascalCase c (by rw [hc]; rfl)⟩

/-- The word begins with a digit. -/
def isNumbered (word : String) : Bool := word.toList.head?.any Char.isDigit

/-- **The class name of a template** is its word, behind an underscore if it begins with a digit. -/
theorem className_eq (template : String) : className template =
    if isNumbered (classWord template) then "_" ++ classWord template else classWord template := by
  unfold className identifier classWord
  rw [map_wordChar_pascalCase, String.ofList_toList]
  dsimp only
  by_cases none : pascalCase template = ""
  · rw [none]
    rfl
  · obtain ⟨c, cs, hc⟩ := List.exists_cons_of_ne_nil (mt String.toList_eq_nil_iff.mp none)
    have free : reservedWords.contains (pascalCase template) = false := by
      simpa using (isMarked_pascalCase none).notMem_reservedWords
    have first : isNumbered (pascalCase template) = c.isDigit := by
      rw [isNumbered, hc]
      rfl
    rw [if_neg none, first, hc, free]
    dsimp only
    rw [Bool.or_false]

theorem underscore_notMem_classWord (template : String) : '_' ∉ (classWord template).toList := by
  unfold classWord
  split
  · decide
  · exact underscore_notMem_pascalCase template

theorem classWord_ne_underscore_append (a b : String) : "_" ++ classWord a ≠ classWord b := by
  intro h
  refine underscore_notMem_classWord b ?_
  rw [← h, String.toList_append]
  exact List.mem_append_left _ List.mem_cons_self

/-- **Two templates have one class name** just when they have one word. -/
theorem className_inj {a b : String} :
    className a = className b ↔ classWord a = classWord b := by
  refine ⟨fun h => ?_, fun h => by rw [className_eq, className_eq, h]⟩
  rw [className_eq a, className_eq b] at h
  -- an underscore that is in front of one name only is in no word
  split at h <;> split at h
  · exact (String.append_right_inj "_").mp h
  · exact absurd h (classWord_ne_underscore_append a b)
  · exact absurd h.symm (classWord_ne_underscore_append b a)
  · exact h

/-- Separators and the case of the letters behind them make no difference. -/
example : className "token-pair" = className "TokenPair" := by decide +kernel

/-- What is imported has no underscore in it, and does not begin with a digit. -/
theorem imports_plain {f : Family} {style : TemplateStyle}
    (present : f.templateStyle = .present style) :
    ∀ name ∈ style.imports, '_' ∉ name.toList ∧ isNumbered name = false := by
  cases f <;> cases present <;> decide

/-- A class name is imported just when its word is. -/
theorem className_mem_imports {f : Family} {style : TemplateStyle}
    (present : f.templateStyle = .present style) {template : String} :
    className template ∈ style.imports ↔ classWord template ∈ style.imports := by
  rw [className_eq]
  split
  · next numbered =>
      refine iff_of_false (fun h => (imports_plain present _ h).1 ?_) fun h => ?_
      · rw [String.toList_append]
        exact List.mem_append_left _ List.mem_cons_self
      · rw [(imports_plain present _ h).2] at numbered
        cases numbered
  · rfl

/-- The words of the templates' names differ from each other and from what is imported. -/
structure NamesApart (style : TemplateStyle) (templates : List Entry) : Prop where
  words : (templates.map fun template => classWord template.name).Nodup
  imports : ∀ template ∈ templates, classWord template.name ∉ style.imports

end TemplateStyle

/-! ### Names apart -/

namespace Build

variable {f : Family} {style : TemplateStyle} {templates : List Entry} {text : String}

/-- **The class names in the file differ from each other and from what is imported** just when the
words of the templates do.

That two templates have different names is not enough. -/
theorem nodup_templateClasses_iff (present : f.templateStyle = .present style)
    (made : templatesText f templates = .ok text) :
    ((classesIn text).Nodup ∧ ∀ name ∈ classesIn text, name ∉ importsIn text) ↔
      style.NamesApart templates := by
  have distinct : (templates.map fun template => TemplateStyle.className template.name).Nodup ↔
      (templates.map fun template => TemplateStyle.classWord template.name).Nodup := by
    rw [List.Nodup, List.pairwise_map, List.pairwise_map]
    simp only [ne_eq, TemplateStyle.className_inj]
  have apart : (∀ name ∈ classesIn text, name ∉ importsIn text) ↔
      ∀ template ∈ templates, TemplateStyle.classWord template.name ∉ style.imports := by
    rw [classesIn_templatesText present made, importsIn_templatesText present made,
      List.forall_mem_map]
    refine forall₂_congr fun template ht => not_congr ?_
    rw [if_neg (List.ne_nil_of_mem ht), TemplateStyle.className_mem_imports present]
  rw [apart, classesIn_templatesText present made, distinct]
  exact ⟨fun ⟨words, imports⟩ => ⟨words, imports⟩, fun h => ⟨h.words, h.imports⟩⟩

/-- Templates with separators, a digit or no letters in their names. -/
def pools : List Entry :=
  ["token-pair", "1st pool", "?"].map fun name =>
    { kind := "ethereum", name, mapping := {} }

theorem nodup_templateClasses_iff_pools : ∃ text, templatesText .ethereum pools = .ok text ∧
    (classesIn text).Nodup ∧ ∀ name ∈ classesIn text, name ∉ importsIn text := by
  have present : Family.templateStyle .ethereum = .present _ := rfl
  obtain ⟨text, made⟩ := exists_templatesText present pools
  exact ⟨text, made, (nodup_templateClasses_iff present made).mpr
    ⟨by decide +kernel, by decide +kernel⟩⟩

/-- A manifest with two templates whose names differ in the case of a letter. -/
def pairs : String := "dataSources:\n" ++
  "- kind: tendermint/data\n  name: A\n  mapping: \x7b\x7d\n" ++
  "templates:\n" ++
  "- kind: tendermint/data\n  name: pair\n  mapping: \x7b\x7d\n" ++
  "- kind: tendermint/data\n  name: Pair\n  mapping: \x7b\x7d\n"

/-- **A manifest without errors may have two classes of one name** in the file with the classes of
its templates, though no two of them have the same name. -/
theorem not_nodup_templateClasses_pairs : ∃ m text, Manifest.parse pairs = .ok m ∧
    family m = .ok .tendermint ∧
    (m.validate .tendermint (Configuration.validation {} ⟨"m"⟩)).errors = [] ∧
    (m.templates.map Entry.name).Nodup ∧ templatesText .tendermint m.templates = .ok text ∧
    ¬ (classesIn text).Nodup := by
  have readable : (Manifest.parse pairs).toOption.any (fun m =>
      isValid .tendermint (Configuration.validation {} ⟨"m"⟩) m &&
        (decide (m.templates.map Entry.name).Nodup &&
          decide ¬ (m.templates.map fun t => TemplateStyle.className t.name).Nodup)) = true := by
    decide +kernel
  obtain ⟨m, parsed, fits⟩ := exists_of_any readable
  rw [Bool.and_eq_true, Bool.and_eq_true, isValid_iff, decide_eq_true_iff,
    decide_eq_true_iff] at fits
  obtain ⟨⟨known, valid⟩, names, clash⟩ := fits
  obtain ⟨text, made⟩ := exists_templatesText (f := .tendermint) rfl m.templates
  rw [← classesIn_templatesText rfl made] at clash
  exact ⟨m, text, parsed, known, valid, names, made, clash⟩

end Build

end Subgraph

import Subgraph.Proofs.DistinctNames
import Subgraph.Proofs.MemberNames
import Subgraph.Proofs.TemplateClasses

/-!
# EventClasses — the classes of event definitions

The bindings of event definitions are a function that looks an attribute up, and a class for each
definition.  A class gives the type of its events as a literal, and so does each getter of the key
that it looks up; the names of classes and of getters are words that the types and the keys leave.

* `IsEventClass`, `IsClassText`: the class of a definition, and what is read off its text.
* `areEventClasses_eventClasses`: each definition has its class, under a name of its own.
* `definitions_declared`: so every file of definitions that is accepted has bindings, with all types
  and keys as they are.
* `nodup_instanceMembers_iff`: the members of a class have different names unless a key leaves the
  name of its field or of its constructor.
-/

namespace Subgraph

open Layout Generated Text

/-! ### Getters and literals in generated texts -/

namespace Generated.Clause

/-- Lines with a literal behind the word, which stands for its value. -/
def literalBehind (word : String) : Clause where
  word := word
  names rest := (readQuoted rest).toList.map fun read => String.ofList read.1

/-- Lines that declare a getter. -/
def getting : Clause where
  word := "get "
  names rest := [String.ofList (rest.takeWhile isWordChar)]

theorem names_literalBehind (word value rest : String) :
    (literalBehind word).names (quote value ++ rest).toList = [value] := by
  have read : readQuoted (quote value ++ rest).toList = some (value.toList, rest.toList) := by
    rw [String.toList_append, quote, String.toList_ofList]
    exact readQuoted_quoteChars value.toList rest.toList
  dsimp only [literalBehind]
  rw [read]
  exact congrArg (fun text => [text]) String.ofList_toList

end Generated.Clause

namespace Cosmos

/-! ### The lines of the class of a definition -/

/-- Lines that give the type of the events of a class. -/
def typing : Clause := .literalBehind "static readonly EVENT_TYPE: string = "

/-- Lines that look an attribute up. -/
def lookingUp : Clause := .literalBehind "return attribute(this._event, "

/-- The beginnings of lines that make nothing known. -/
def plainStarts : List String :=
  ["_event:", "constructor(", "this.", "static matches(", "return event.", "\x7d"]

/-- A line that makes nothing known. -/
def IsPlain (line : String) : Prop := ∃ start ∈ plainStarts, start.toList <+: line.toList

instance : DecidablePred IsPlain := fun line =>
  inferInstanceAs (Decidable (∃ start ∈ plainStarts, start.toList <+: line.toList))

section Lines

variable {k : Clause} {name : String} {e : EventDefinition}

theorem heading_eventClass (name : String) (e : EventDefinition) :
    (eventClass name e).heading = Clause.declaring.word ++ (name ++ " \x7b") := by
  simp only [ClassDecl.heading, eventClass, Clause.declaring, String.append_assoc]

/-- The line that gives the type of the events. -/
def typeLine (type : String) : String := typing.word ++ (quote type ++ ";")

/-- The line that declares a getter. -/
def getterLine (name : String) : String := Clause.getting.word ++ (name ++ "(): string \x7b")

/-- The line that looks an attribute up. -/
def lookupLine (key : String) : String := lookingUp.word ++ (quote key ++ ");")

theorem lines_constant (type : String) :
    (Member.constant "EVENT_TYPE" "string" (.literal type)).lines = [typeLine type] := by
  simp only [Member.lines, Expr.text, typeLine, typing, Clause.literalBehind, ← String.append_assoc]
  rfl

theorem lines_attributeGetter (name key : String) :
    (attributeGetter name key).lines = [getterLine name, lookupLine key, "\x7d"] := by
  have opening : lookingUp.word =
      "return " ++ "attribute" ++ "(" ++ "this" ++ "." ++ "_event" ++ ", " := by decide
  simp only [attributeGetter, Member.lines, Member.block, Statement.lines, Expr.text, Expr.textList,
    List.flatMap_cons, List.flatMap_nil, List.append_nil, List.singleton_append, getterLine,
    lookupLine, Clause.getting, opening, String.append_assoc]
  rfl

/-- The line that compares the type of an event. -/
theorem isPlain_comparison (name : String) :
    IsPlain ("return " ++
      ("event" ++ "." ++ "eventType" ++ " == " ++ (name ++ "." ++ "EVENT_TYPE")) ++ ";") := by
  have opening : "return event.eventType == " =
      "return " ++ "event" ++ "." ++ "eventType" ++ " == " := by decide
  have line : "return " ++
      ("event" ++ "." ++ "eventType" ++ " == " ++ (name ++ "." ++ "EVENT_TYPE")) ++ ";" =
        "return event.eventType == " ++ (name ++ "." ++ "EVENT_TYPE" ++ ";") := by
    rw [opening]
    simp only [String.append_assoc]
  refine ⟨"return event.", by decide, ?_⟩
  rw [line, String.toList_append]
  exact (by decide : "return event.".toList <+: "return event.eventType == ".toList).trans
    (List.prefix_append _ _)

/-- The members of the class that are the same for all definitions, but for the name of the class:
its field, its constructor, and what tells whether an event is of its type. -/
def fixedMembers (name : String) : List Member :=
  [.field "_event" eventType,
    .maker [⟨"event", eventType⟩] [.assign (.member (.word "this") "_event") (.word "event")],
    .function "matches" [⟨"event", eventType⟩] "boolean"
      [.give (.equals (.member (.word "event") "eventType") (.member (.word name) "EVENT_TYPE"))]]

theorem isPlain_of_mem_fixedMembers {m : Member} (hm : m ∈ fixedMembers name) :
    ∀ line ∈ m.lines, IsPlain line := by
  rcases List.mem_cons.mp hm with rfl | hm
  · decide
  · rcases List.mem_pair.mp hm with rfl | rfl
    · decide
    · refine List.forall_mem_cons.mpr ⟨by decide, List.forall_mem_cons.mpr ⟨?_, by decide⟩⟩
      exact isPlain_comparison name

theorem members_eventClass (name : String) (e : EventDefinition) : (eventClass name e).members =
    .constant "EVENT_TYPE" "string" (.literal e.type) ::
      (fixedMembers name ++ attributeGetters e.attributes) := rfl

theorem newline_notMem_lines (hn : IsWord name) :
    ∀ line ∈ (eventClass name e).lines, '\n' ∉ line.toList := by
  obtain ⟨bs, reads, -⟩ := areTidy_class (isTidy_eventClass (isTidy_of_isWord hn) e)
  exact reads.newline_notMem

/-- The names that attributes ask for and get, each with its key. -/
def namedKeys (keys : List String) : List (String × String) :=
  (distinctNames (keys.map (identifier · "attribute"))).zip keys

theorem attributeGetters_eq (keys : List String) :
    attributeGetters keys = (namedKeys keys).map fun given => attributeGetter given.1 given.2 :=
  (List.map_uncurry_zip_eq_zipWith ..).symm

/-- **What the text of the class of a definition makes known** stands in its heading, in the line
with the type, and in the getters of its attributes. -/
theorem namesIn_eventClass (hn : IsWord name) (plain : ∀ start ∈ plainStarts, k.IsApart start) :
    k.namesIn (declarationText [eventClass name e]) =
      k.namesIn (eventClass name e).heading ++ k.namesIn (typeLine e.type) ++
        (namedKeys e.attributes).flatMap fun given =>
          k.namesIn (getterLine given.1) ++ k.namesIn (lookupLine given.2) := by
  have skip {line : String} (hl : line ∈ (eventClass name e).lines) (h : IsPlain line) :
      k.namesIn line = [] := by
    obtain ⟨start, hs, begins⟩ := h
    exact (plain start hs).namesIn begins (newline_notMem_lines hn line hl)
  have closing : k.namesIn "\x7d" = [] :=
    (plain "\x7d" (by decide)).namesIn List.prefix_rfl (by decide)
  have fixed : (fixedMembers name).flatMap (fun m => m.lines.flatMap k.namesIn) = [] := by
    refine List.flatMap_eq_nil_iff.mpr fun m hm => List.flatMap_eq_nil_iff.mpr fun line hl => ?_
    refine skip (ClassDecl.mem_lines_of_mem ?_ hl) (isPlain_of_mem_fixedMembers hm line hl)
    exact List.mem_cons_of_mem _ (List.mem_append_left _ hm)
  have getter (given : String × String) :
      (attributeGetter given.1 given.2).lines.flatMap k.namesIn =
        k.namesIn (getterLine given.1) ++ k.namesIn (lookupLine given.2) := by
    rw [lines_attributeGetter, List.flatMap_cons, List.flatMap_cons, List.flatMap_singleton,
      closing, List.append_nil]
  rw [k.namesIn_declarationText, members_eventClass, List.flatMap_cons, lines_constant,
    List.flatMap_singleton, List.flatMap_append, fixed, List.nil_append, attributeGetters_eq,
    List.flatMap_map, closing, List.append_nil, List.append_assoc]
  simp only [getter]

end Lines

/-! ### What is read off the class of a definition -/

section Classes

variable {k : Clause} {name : String} {e : EventDefinition} {given : String × String}

theorem isWord_of_mem_namedKeys {keys : List String} (h : given ∈ namedKeys keys) :
    IsWord given.1 :=
  isWord_of_mem_zip (fun key => isWord_identifier key (isWord_text rfl)) keys given h

theorem heading_mem_lines : (eventClass name e).heading ∈ (eventClass name e).lines :=
  List.mem_cons_self

theorem typeLine_mem_lines : typeLine e.type ∈ (eventClass name e).lines := by
  refine ClassDecl.mem_lines_of_mem List.mem_cons_self ?_
  rw [lines_constant]
  exact List.mem_cons_self

theorem lines_getter_subset (h : given ∈ namedKeys e.attributes) :
    [getterLine given.1, lookupLine given.2, "\x7d"] ⊆ (eventClass name e).lines := by
  intro line hl
  rw [← lines_attributeGetter] at hl
  refine ClassDecl.mem_lines_of_mem ?_ hl
  rw [members_eventClass, attributeGetters_eq]
  exact List.mem_cons_of_mem _ (List.mem_append_right _ (List.mem_map_of_mem h))

theorem getterLine_mem_lines (h : given ∈ namedKeys e.attributes) :
    getterLine given.1 ∈ (eventClass name e).lines :=
  lines_getter_subset h List.mem_cons_self

theorem lookupLine_mem_lines (h : given ∈ namedKeys e.attributes) :
    lookupLine given.2 ∈ (eventClass name e).lines :=
  lines_getter_subset h (List.mem_cons_of_mem _ List.mem_cons_self)

section Words

variable (hn : IsWord name)
include hn

/-- A line of the class makes nothing known to what is apart from its beginning. -/
theorem namesIn_of_isApart {word line rest : String} (h : k.IsApart word)
    (hl : line ∈ (eventClass name e).lines) (eq : line = word ++ rest) : k.namesIn line = [] := by
  refine h.namesIn ?_ (newline_notMem_lines hn line hl)
  rw [eq, String.toList_append]
  exact List.prefix_append _ _

theorem namesIn_heading : Clause.declaring.namesIn (eventClass name e).heading = [name] := by
  have newline := newline_notMem_lines hn _ (heading_mem_lines (e := e))
  rw [Clause.declaring.namesIn_of_word rfl rfl rfl rfl (heading_eventClass name e) newline]
  exact Clause.names_declaring hn (by rintro c ⟨⟩; decide)

theorem namesIn_typeLine : typing.namesIn (typeLine e.type) = [e.type] := by
  have newline := newline_notMem_lines hn _ (typeLine_mem_lines (e := e))
  refine (Clause.namesIn_of_word _ rfl rfl rfl rfl rfl newline).trans ?_
  exact Clause.names_literalBehind _ _ _

theorem namesIn_getterLine (h : given ∈ namedKeys e.attributes) :
    Clause.getting.namesIn (getterLine given.1) = [given.1] := by
  have newline := newline_notMem_lines hn _ (getterLine_mem_lines h)
  refine (Clause.namesIn_of_word _ rfl rfl rfl rfl rfl newline).trans ?_
  exact Clause.names_declaring (isWord_of_mem_namedKeys h) (by rintro c ⟨⟩; decide)

theorem namesIn_lookupLine (h : given ∈ namedKeys e.attributes) :
    lookingUp.namesIn (lookupLine given.2) = [given.2] := by
  have newline := newline_notMem_lines hn _ (lookupLine_mem_lines h)
  refine (Clause.namesIn_of_word _ rfl rfl rfl rfl rfl newline).trans ?_
  exact Clause.names_literalBehind _ _ _

end Words

/-- What is read off the text of the class of a definition: one class, the type of its events, a
getter for each attribute, and the keys that are looked up, in order and nothing else. -/
structure IsClassText (name : String) (e : EventDefinition) (text : String) : Prop where
  classes : classesIn text = [name]
  types : typing.namesIn text = [e.type]
  getters : Clause.getting.namesIn text =
    distinctNames (e.attributes.map (identifier · "attribute"))
  keys : lookingUp.namesIn text = e.attributes

/-- **The text of the class of a definition** gives its type and its keys as they are. -/
theorem isClassText_eventClass (hn : IsWord name) :
    IsClassText name e (declarationText [eventClass name e]) := by
  have title (k : Clause) (h : k.IsApart Clause.declaring.word) :=
    namesIn_of_isApart hn h heading_mem_lines (heading_eventClass name e)
  have type (k : Clause) (h : k.IsApart typing.word) :=
    namesIn_of_isApart hn h (typeLine_mem_lines (e := e)) rfl
  have getter (k : Clause) (h : k.IsApart Clause.getting.word) {given : String × String}
      (hg : given ∈ namedKeys e.attributes) :=
    namesIn_of_isApart hn h (getterLine_mem_lines hg) rfl
  have lookup (k : Clause) (h : k.IsApart lookingUp.word) {given : String × String}
      (hg : given ∈ namedKeys e.attributes) :=
    namesIn_of_isApart hn h (lookupLine_mem_lines hg) rfl
  have silent (k : Clause) (hg : k.IsApart Clause.getting.word) (hl : k.IsApart lookingUp.word) :
      ((namedKeys e.attributes).flatMap fun given =>
        k.namesIn (getterLine given.1) ++ k.namesIn (lookupLine given.2)) = [] := by
    refine List.flatMap_eq_nil_iff.mpr fun given h => ?_
    rw [getter k hg h, lookup k hl h, List.nil_append]
  refine ⟨?_, ?_, ?_, ?_⟩
  · rw [classesIn, namesIn_eventClass hn (by decide), namesIn_heading hn, type _ (by decide),
      silent _ (by decide) (by decide)]
    rfl
  · rw [namesIn_eventClass hn (by decide), title _ (by decide), namesIn_typeLine hn,
      silent _ (by decide) (by decide)]
    rfl
  · rw [namesIn_eventClass hn (by decide), title _ (by decide), type _ (by decide)]
    refine (List.flatMap_congr fun given hg => ?_).trans
      (List.map_eq_flatMap.symm.trans (List.map_fst_zip (by simp)))
    rw [namesIn_getterLine hn hg, lookup _ (by decide) hg, List.append_nil]
  · rw [namesIn_eventClass hn (by decide), title _ (by decide), type _ (by decide)]
    refine (List.flatMap_congr fun given hg => ?_).trans
      (List.map_eq_flatMap.symm.trans (List.map_snd_zip (by simp)))
    rw [namesIn_lookupLine hn hg, getter _ (by decide) hg, List.nil_append]

end Classes

/-! ### The classes of a file -/

open Ethereum (Bound bound_of_zip readQuoted_literal)

/-- The getter looks the attribute up under the key that its literal decodes to. -/
def IsLookup (name key : String) (m : Member) : Prop :=
  ∃ literal : Expr, m = .getter name "string"
      [.give (.call (.word "attribute") [.member (.word "this") "_event", literal])] ∧
    readQuoted literal.text.toList = some (key.toList, [])

/-- The class is that of a definition: it knows the type that its literal decodes to, and behind
the members that all classes have stand the getters of the attributes. -/
def IsEventClass (name : String) (e : EventDefinition) (c : ClassDecl) : Prop :=
  ∃ (type : Expr) (getters : List Member),
    c = ⟨name, none, .constant "EVENT_TYPE" "string" type :: (fixedMembers name ++ getters)⟩ ∧
    readQuoted type.text.toList = some (e.type.toList, []) ∧
    Bound (identifier · "attribute") IsLookup e.attributes getters

section Named

variable {name : String} {e : EventDefinition} {events : List EventDefinition}

theorem isEventClass_eventClass (name : String) (e : EventDefinition) :
    IsEventClass name e (eventClass name e) := by
  refine ⟨.literal e.type, attributeGetters e.attributes, rfl, readQuoted_literal e.type, ?_⟩
  refine bound_of_zip ?_
  rw [attributeGetters_eq, List.forall₂_map_right_iff]
  exact List.forall₂_same.mpr fun given _ => ⟨_, rfl, readQuoted_literal given.2⟩

/-- The name that a class asks for has a character that no reserved word has, whatever it is made
of. -/
theorem isMarked_identifier (text : String) {fallback : String} (h : IsMarked fallback) :
    IsMarked (identifier (pascalCase text) fallback) := by
  rw [identifier_eq]
  split
  · exact h
  · next any =>
      have word : wordOf (pascalCase text) = pascalCase text := by
        rw [wordOf, map_wordChar_pascalCase, String.ofList_toList]
      have itself := TemplateStyle.isMarked_pascalCase any
      rw [word, marked]
      split
      · exact isMarked_append.mpr (.inr itself)
      · exact itself

/-- The names that the classes get, each with its definition. -/
def namedEvents (events : List EventDefinition) : List (String × EventDefinition) :=
  (distinctNames (events.map className)).zip events

theorem eventClasses_eq (events : List EventDefinition) :
    eventClasses events = (namedEvents events).map fun given => eventClass given.1 given.2 :=
  (List.map_uncurry_zip_eq_zipWith ..).symm

theorem names_eventClasses (events : List EventDefinition) :
    (eventClasses events).map ClassDecl.name = distinctNames (events.map className) := by
  rw [eventClasses_eq, List.map_map]
  exact List.map_fst_zip (by simp)

theorem isWord_of_mem_namedEvents {given : String × EventDefinition}
    (h : given ∈ namedEvents events) : IsWord given.1 :=
  isWord_of_mem_zip (fun _ => isWord_identifier _ (isWord_text rfl)) events given h

/-- **Each definition has its class**, in order and with nothing else between. -/
theorem bound_eventClasses (events : List EventDefinition) :
    Bound className
      (fun name e c => IsEventClass name e c ∧ IsClassText name e (declarationText [c]))
      events (eventClasses events) := by
  refine bound_of_zip ?_
  rw [eventClasses_eq, List.forall₂_map_right_iff]
  refine List.forall₂_same.mpr fun given hg => ⟨isEventClass_eventClass given.1 given.2, ?_⟩
  exact isClassText_eventClass (isWord_of_mem_namedEvents hg)

theorem isMarked_eventClasses : ∀ c ∈ eventClasses events, IsMarked c.name := by
  have all : ∀ name ∈ distinctNames (events.map className), IsMarked name :=
    forall_mem_distinctNames (fun _ hn => isMarked_append.mpr (.inl hn))
      (List.forall_mem_map.mpr fun e _ => isMarked_identifier e.type (isMarked_text rfl))
  rwa [← names_eventClasses, List.forall_mem_map] at all

/-- The classes are those of the definitions, in order and with nothing else between.  No two have
one name, and none has that of the function beside them or of what is imported. -/
structure AreEventClasses (events : List EventDefinition) (classes : List ClassDecl) : Prop where
  each : Bound className
    (fun name e c => IsEventClass name e c ∧ IsClassText name e (declarationText [c]))
    events classes
  distinct : (classes.map ClassDecl.name).Nodup
  free : ∀ c ∈ classes, c.name ≠ "attribute" ∧ c.name ∉ bindingImports

theorem areEventClasses_eventClasses (events : List EventDefinition) :
    AreEventClasses events (eventClasses events) := by
  refine ⟨bound_eventClasses events, ?_, fun c hc => ?_⟩
  · rw [names_eventClasses]
    exact nodup_distinctNames _
  · -- the other names are all in lower case
    have small : ("attribute" :: bindingImports).all (·.toList.all Char.isLower) = true := rfl
    have other : c.name ∉ "attribute" :: bindingImports := by
      obtain ⟨letter, inside, large⟩ := isMarked_eventClasses c hc
      intro hg
      rw [List.all_eq_true.mp (List.all_eq_true.mp small _ hg) letter inside] at large
      cases large
    exact ⟨fun same => other (same ▸ List.mem_cons_self),
      fun imported => other (List.mem_cons_of_mem _ imported)⟩

end Named

end Cosmos

/-! ### Files of definitions -/

namespace Interface

open Cosmos

/-- **Every file of definitions that is accepted has bindings**: the function that looks an
attribute up, and behind it a class for each definition.

The types and the keys stand in the text as they are, in the order of the file, however often they
occur. -/
theorem definitions_declared {name : String} {file : Path} {text : String}
    {events : List EventDefinition} (accepted : parseEvents text = .ok events) :
    ∃ notice classes,
      readDefinitions name file text = .ok (ofDefinitions name file events, notice) ∧
      (ofDefinitions name file events).declarations = .ok
        (String.intercalate "\n" attributeLookup :: classes.map fun c => declarationText [c]) ∧
      AreEventClasses events classes := by
  refine ⟨.definitionsRead name events.length, eventClasses events, ?_, rfl,
    areEventClasses_eventClasses events⟩
  rw [readDefinitions, accepted]
  rfl

/-- Definitions whose types leave one name and whose keys come again, next to keys with quotes, a
reserved word and no characters at all. -/
def bank : String :=
  "[\x7b\"type\":\"a-b\",\"attributes\":[\"k\",\"say \\\"hi\\\"\",\"k\"]\x7d," ++
  "\x7b\"type\":\"a_b\",\"attributes\":[\"new\",\x7b\"key\":\"\"\x7d]\x7d]"

theorem definitions_declared_bank : ∃ events, parseEvents bank = .ok events ∧
    events = [⟨"a-b", ["k", "say \"hi\"", "k"]⟩, ⟨"a_b", ["new", ""]⟩] ∧
    ∃ notice classes, readDefinitions "Bank" ⟨"bank.json"⟩ bank =
        .ok (ofDefinitions "Bank" ⟨"bank.json"⟩ events, notice) ∧
      (ofDefinitions "Bank" ⟨"bank.json"⟩ events).declarations = .ok
        (String.intercalate "\n" attributeLookup :: classes.map fun c => declarationText [c]) ∧
      AreEventClasses events classes := by
  have readable : (parseEvents bank).toOption.any (fun events => decide
      (events = [⟨"a-b", ["k", "say \"hi\"", "k"]⟩, ⟨"a_b", ["new", ""]⟩])) = true := by
    decide +kernel
  obtain ⟨events, accepted, same⟩ := exists_of_any readable
  exact ⟨events, accepted, of_decide_eq_true same, definitions_declared accepted⟩

end Interface

/-! ### The members of a class -/

namespace Cosmos

/-- The objects of a class have the names that the getters get, and two more. -/
theorem declared_eventClass (name : String) (e : EventDefinition) :
    (eventClass name e).members.filterMap Member.declared? =
      "_event" :: "constructor" :: distinctNames (e.attributes.map (identifier · "attribute")) := by
  have getters : (attributeGetters e.attributes).filterMap Member.declared? =
      distinctNames (e.attributes.map (identifier · "attribute")) := by
    rw [attributeGetters_eq, List.filterMap_map]
    change (namedKeys e.attributes).filterMap (some ∘ Prod.fst) = _
    rw [List.filterMap_eq_map]
    exact List.map_fst_zip (by simp)
  rw [← getters]
  rfl

section Keys

variable {key : String}

/-- A getter asks for the name of the field just when the key leaves it. -/
theorem identifier_eq_field_iff :
    identifier key "attribute" = "_event" ↔ wordOf key = "_event" := by
  rw [identifier_eq]
  split
  · next none =>
      rw [none]
      decide
  · refine marked_eq_iff_of_unmarked (by decide) fun rest same => ?_
    rw [← (String.append_right_inj "_").mp ((by decide : "_" ++ "event" = "_event").trans same)]
    decide

/-- A getter asks for the name of the constructor just when the key is this name. -/
theorem identifier_eq_maker_iff :
    identifier key "attribute" = "constructor" ↔ key = "constructor" := by
  have word : IsIdentifier "constructor" := isIdentifier_text rfl
  rw [identifier_eq]
  split
  · next none =>
      rw [none]
      decide
  · rw [marked_eq_iff word (by decide), wordOf_eq_iff word (by decide)]

end Keys

/-- **The objects of a class have members with different names** unless a key leaves the name of the
field, or is that of the constructor.

The names of the getters are compared with each other, and with no others. -/
theorem nodup_instanceMembers_iff (name : String) (e : EventDefinition) :
    ((eventClass name e).members.filterMap Member.declared?).Nodup ↔
      ∀ key ∈ e.attributes, wordOf key ≠ "_event" ∧ key ≠ "constructor" := by
  have asked (given : String) : given ∉ e.attributes.map (identifier · "attribute") ↔
      ∀ key ∈ e.attributes, identifier key "attribute" ≠ given := by
    rw [List.mem_map, not_exists]
    exact forall_congr' fun key => not_and
  rw [declared_eventClass, List.nodup_cons, List.nodup_cons, List.mem_cons, not_or,
    mem_distinctNames_iff rfl, mem_distinctNames_iff rfl, asked, asked]
  simp only [Ne, identifier_eq_field_iff, identifier_eq_maker_iff, nodup_distinctNames, and_true,
    forall_and]
  exact and_congr_left fun _ => and_iff_right (by decide)

/-- A definition with a key that is the name of the field. -/
def wrapped : String := "[\x7b\"type\":\"a\",\"attributes\":[\"_event\"]\x7d]"

/-- The class of an accepted definition may have two members of one name. -/
theorem not_nodup_instanceMembers_wrapped : ∃ events, parseEvents wrapped = .ok events ∧
    ¬ ∀ c ∈ eventClasses events, (c.members.filterMap Member.declared?).Nodup := by
  have readable : (parseEvents wrapped).toOption.any (fun events => decide
      ¬ ∀ c ∈ eventClasses events, (c.members.filterMap Member.declared?).Nodup) = true := by
    decide +kernel
  obtain ⟨events, accepted, clash⟩ := exists_of_any readable
  exact ⟨events, accepted, of_decide_eq_true clash⟩

end Cosmos

end Subgraph

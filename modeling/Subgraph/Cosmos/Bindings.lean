import Subgraph.Text.Identifier
import Subgraph.Text.Distinct
import Subgraph.Cosmos.Events
import Subgraph.Generated.Class

/-!
# Cosmos — bindings of event definitions

The bindings of event definitions are a function that looks an attribute up, and a class for each
definition, in the order of the file.  A class knows its type of event, tells whether an event is of
that type, and has a getter for each attribute; a missing attribute reads as the empty text.
-/

namespace Subgraph.Cosmos

open Generated Text

/-- What the bindings of event definitions import. -/
def bindingImports : List String := ["cosmos"]

/-- The function that looks an attribute of an event up. -/
def attributeLookup : List String :=
  ["function attribute(event: cosmos.Event, key: string): string \x7b",
    "for (let i = 0; i < event.attributes.length; i++) \x7b",
    "if (event.attributes[i].key == key) \x7b",
    "return event.attributes[i].value;",
    "\x7d",
    "\x7d",
    "return \"\";",
    "\x7d"]

/-- The type of the events that a class holds. -/
def eventType : String := "cosmos.Event"

/-- The getter of an attribute under the name handed out to it. -/
def attributeGetter (name key : String) : Member :=
  .getter name "string"
    [.give (.call (.word "attribute") [.member (.word "this") "_event", .literal key])]

/-- The getters of attributes, under distinct names. -/
def attributeGetters (keys : List String) : List Member :=
  List.zipWith attributeGetter (distinctNames (keys.map (identifier · "attribute"))) keys

/-- The class of a definition under the name handed out to it. -/
def eventClass (name : String) (e : EventDefinition) : ClassDecl where
  name := name
  base? := none
  members :=
    [.constant "EVENT_TYPE" "string" (.literal e.type),
      .field "_event" eventType,
      .maker [⟨"event", eventType⟩] [.assign (.member (.word "this") "_event") (.word "event")],
      .function "matches" [⟨"event", eventType⟩] "boolean"
        [.give (.equals (.member (.word "event") "eventType") (.member (.word name) "EVENT_TYPE"))]]
    ++ attributeGetters e.attributes

/-- The class name that a definition asks for. -/
def className (e : EventDefinition) : String := identifier (pascalCase e.type) "Event"

/-- The classes of definitions, under distinct names. -/
def eventClasses (events : List EventDefinition) : List ClassDecl :=
  List.zipWith eventClass (distinctNames (events.map className)) events

end Subgraph.Cosmos

/-
**Documents by type.**

* `DocumentType` — what a document can describe.
* `DocumentType.canonical?` — the document as the library writes it, if it is one of the type.
* `DocumentType.normalForm?` — the canonical document of a text, and whether that document reads back
  as itself.
-/

import Switchboard.Json.Reader
import Switchboard.Json.Writer
import Switchboard.Wire.Events
import Switchboard.Wire.Settings

namespace Switchboard

/-- What a document can describe. -/
inductive DocumentType where
  | feature
  | property
  | value
  | context
  | principal
  | accessList
  | grantees
  | permission
  | strategy
  | event
  | eventAction
  | eventScope
  | entityKind
  | decision
  | reason
  | layer
  | cacheSettings
  deriving DecidableEq, Repr

namespace DocumentType

/-- The types under their names. -/
def all : List (String × DocumentType) :=
  [ ("feature", feature), ("property", property), ("property_value", value),
    ("context_value", value), ("context", context), ("principal", principal), ("acl", accessList),
    ("grantees", grantees), ("permission", permission), ("strategy", strategy), ("event", event),
    ("event_action", eventAction), ("event_scope", eventScope), ("entity_kind", entityKind),
    ("decision", decision), ("reason", reason), ("layer", layer), ("cache_config", cacheSettings) ]

/-- The document as the library writes it, if it is one of the type. -/
def canonical? (type : DocumentType) (json : Json) : Option Json :=
  match type with
  | feature => (Feature.ofJson? json).map Feature.toJson
  | property => (Property.ofJson? json).map Property.toJson
  | value => (Value.ofJson? json).map Value.toJson
  | context => (Context.ofJson? json).map Context.toJson
  | principal => (Principal.ofJson? json).map Principal.toJson
  | accessList => (AccessList.ofJson? json).map AccessList.toJson
  | grantees => (Grantees.ofJson? json).map Grantees.toJson
  | permission => (Permission.ofJson? json).map Permission.toJson
  | strategy => (StrategyConfig.ofJson? json).map StrategyConfig.toJson
  | event => (IdentifiedEvent.ofJson? json).map IdentifiedEvent.toJson
  | eventAction => (EventAction.ofJson? json).map EventAction.toJson
  | eventScope => (EventScope.ofJson? json).map EventScope.toJson
  | entityKind => (EntityKind.ofJson? json).map EntityKind.toJson
  | decision => (Decision.ofJson? json).map Decision.toJson
  | reason => (DecisionReason.ofJson? json).map DecisionReason.toJson
  | layer => (Layer.ofJson? json).map Layer.toJson
  | cacheSettings => (CacheSettings.ofJson? json).map CacheSettings.toJson

/-- The canonical document of a text, if it is one of the type, and whether that document, taken as it
is and not as a text, reads back as itself. -/
def normalForm? (type : DocumentType) (source : String) : Option (Json × Bool) := do
  let document ← type.canonical? (← Json.read? source)
  pure (document, (type.canonical? document).map Json.write == some document.write)

end DocumentType

end Switchboard

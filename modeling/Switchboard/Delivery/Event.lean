/-
**Audit events.**

* `Event` — what was done to what, when, by whom.
* `Event.of` — an event with nothing optional set; `Event.withCustom` adds a field of the caller's own.
* `LogRecord` — an event as a line of the audit log: uses are logged in more detail than changes.
-/

import Switchboard.Table
import Switchboard.Time.Instant

namespace Switchboard

/-- What was done. `hit` is a check that found a feature on. -/
inductive EventAction where
  | create
  | update
  | delete
  | deleteAll
  | createSchema
  | toggleOn
  | toggleOff
  | addToGroup
  | removeFromGroup
  | hit
  deriving DecidableEq, Repr

/-- The actions in their order. -/
def EventAction.all : List EventAction :=
  [.create, .update, .delete, .deleteAll, .createSchema, .toggleOn, .toggleOff, .addToGroup,
    .removeFromGroup, .hit]

/-- The name of an action. -/
def EventAction.name : EventAction → String
  | .create => "create"
  | .update => "update"
  | .delete => "delete"
  | .deleteAll => "delete_all"
  | .createSchema => "create_schema"
  | .toggleOn => "toggle_on"
  | .toggleOff => "toggle_off"
  | .addToGroup => "add_to_group"
  | .removeFromGroup => "remove_from_group"
  | .hit => "hit"

/-- What it was done to. -/
inductive EventScope where
  | feature
  | property
  | featureStore
  | propertyStore
  deriving DecidableEq, Repr

/-- The scopes in their order. -/
def EventScope.all : List EventScope := [.feature, .property, .featureStore, .propertyStore]

/-- The name of a scope. -/
def EventScope.name : EventScope → String
  | .feature => "feature"
  | .property => "property"
  | .featureStore => "feature_store"
  | .propertyStore => "property_store"

/-- What was done to what, when, by whom. -/
structure Event where
  timestamp : Time.Instant
  source : String := "latch"
  action : EventAction
  scope : EventScope
  target : String
  user : Option String := none
  durationMillis : Option UInt64 := none
  value : Option String := none
  custom : Table String := ∅
  deriving DecidableEq

namespace Event

/-- The target of an action on a whole store. -/
def wholeStore : String := "*"

/-- An event with nothing optional set. -/
def of (timestamp : Time.Instant) (action : EventAction) (scope : EventScope) (target : String) :
    Event :=
  { timestamp, action, scope, target }

/-- The event with a field of the caller's own, in place of one of the same name. -/
def withCustom (event : Event) (key value : String) : Event :=
  { event with custom := event.custom.insert key value }

/-- The events about a target. -/
def about (target : String) (events : List Event) : List Event :=
  events.filter fun event => event.target == target

end Event

/-- How detailed a line of a log is. -/
inductive LogLevel where
  | debug
  | info
  deriving DecidableEq, Repr

/-- The name of a level. -/
def LogLevel.name : LogLevel → String
  | .debug => "DEBUG"
  | .info => "INFO"

/-- A line of the audit log. -/
structure LogRecord where
  level : LogLevel
  message : String
  event : Event

/-- The line of the audit log for an event. -/
def Event.logRecord (event : Event) : LogRecord where
  level := if event.action = .hit then .debug else .info
  message := "audit event"
  event := event

end Switchboard

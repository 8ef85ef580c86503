/-
**The audit listener.**

An audit listener turns every notice into one event and publishes it to its sinks; a sink that fails
keeps the others from nothing.

* `Notice.event` — the event of a notice.
* `Auditor.receive` — the memory of events after a notice.
-/

import Switchboard.Delivery.Event
import Switchboard.Notice
import Switchboard.Text.Quoted

namespace Switchboard

/-- The event of a change of a repository. -/
def StoreNotice.event {E : Type} [Entity E] (now : Time.Instant) (one whole : EventScope) :
    StoreNotice E → Event
  | .created entity =>
    { Event.of now .create one (Entity.id entity) with value := some (Entity.summary entity) }
  | .updated entity =>
    { Event.of now .update one (Entity.id entity) with value := some (Entity.summary entity) }
  | .deleted id => Event.of now .delete one id
  | .allDeleted => Event.of now .deleteAll whole Event.wholeStore
  | .prepared => Event.of now .createSchema whole Event.wholeStore

/-- The event of a notice. -/
def Notice.event (now : Time.Instant) : Notice → Event
  | .feature (.store notice) => notice.event now .feature .featureStore
  | .feature (.toggled id true) => Event.of now .toggleOn .feature id
  | .feature (.toggled id false) => Event.of now .toggleOff .feature id
  | .feature (.addedToGroup id group) =>
    (Event.of now .addToGroup .feature id).withCustom "group" group
  | .feature (.removedFromGroup id group) =>
    (Event.of now .removeFromGroup .feature id).withCustom "group" group
  | .feature (.used id context) =>
    { Event.of now .hit .feature id with
      value := some "true"
      user := context.principal.map Principal.userId }
  | .property notice => notice.event now .property .propertyStore

/-- Where events are published: a memory that keeps them, a log, or a sink that always fails. -/
inductive Sink where
  | memory
  | log
  | failing (name : String)
  deriving DecidableEq, Repr

/-- The name of a sink. -/
def Sink.name : Sink → String
  | .memory => "memory"
  | .log => "tracing"
  | .failing name => name

/-- A listener that publishes events to sinks. -/
structure Auditor where
  source : String := "latch"
  sinks : List Sink
  deriving DecidableEq, Repr

namespace Auditor

/-- The names of the sinks. -/
def sinkNames (auditor : Auditor) : List String := auditor.sinks.map Sink.name

/-- The memory of events, the oldest first, after a notice. -/
def receive (auditor : Auditor) (now : Time.Instant) (notice : Notice) (memory : List Event) :
    List Event :=
  let event := { notice.event now with source := auditor.source }
  auditor.sinks.foldl (fun memory sink =>
    match sink with
    | .memory => memory ++ [event]
    | .log | .failing _ => memory) memory

/-- The text that shows an audit listener. -/
def describe (auditor : Auditor) : String :=
  "AuditListener \x7b source: " ++ Text.quoted auditor.source ++ ", sinks: " ++
    Text.quotedList auditor.sinkNames ++ " \x7d"

end Auditor

end Switchboard

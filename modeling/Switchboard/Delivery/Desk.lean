/-
**The delivery of notices.**

A desk turns notices into jobs, one per listener in the order of their names, and keeps what the
listeners leave behind.

* `Desk.announce` — the jobs of a notice are offered to the dispatcher.
* `Desk.run` — jobs end and begin.
* `Desk.close`, `Desk.drainTime` — no job is taken any more; the time at which none is left.
-/

import Switchboard.Delivery.Listener

namespace Switchboard

/-- The listeners of a repository under their names. -/
abbrev Listeners := Table Listener

/-- A dispatcher of deliveries with the journal that they fill. -/
structure Desk where
  dispatcher : Dispatcher Delivery
  journal : Journal := {}

namespace Desk

/-- The job of a delivery. -/
def job (notice : Notice) (name : String) (listener : Listener) : Job Delivery :=
  ⟨⟨name, listener, notice⟩, listener.ending⟩

/-- The jobs of a notice, in the order of the names of the listeners. -/
def jobs (listeners : Listeners) (notice : Notice) : List (Job Delivery) :=
  listeners.toList.map fun (name, listener) => job notice name listener

/-- Offers the jobs of a notice to the dispatcher. -/
def announce (listeners : Listeners) (desk : Desk) (notice : Notice) : Desk :=
  { desk with dispatcher := (desk.dispatcher.offerAll (jobs listeners notice)).2 }

/-- Enters what happened into the journal. -/
def collect (desk : Desk) (now : Time.Instant) : Desk :=
  let (occurrences, dispatcher) := desk.dispatcher.collect
  { dispatcher, journal := occurrences.foldl (Journal.record now) desk.journal }

/-- Jobs whose time has come end, and idle workers take jobs. -/
def run (moment : Moment) (desk : Desk) : Desk :=
  { desk with dispatcher := desk.dispatcher.run moment.clock }.collect moment.wall

/-- The time at which the next job in progress ends. -/
def due? (desk : Desk) : Option Nat := desk.dispatcher.due?

/-- Takes no job any more. -/
def close (desk : Desk) : Desk := { desk with dispatcher := desk.dispatcher.close }

/-- The time at which a closed desk has no job left; one that was closed before has none. -/
def drainTime (desk : Desk) (now : Nat) : Nat :=
  if desk.dispatcher.isShutDown then now else desk.close.dispatcher.drainTime now

end Desk

end Switchboard

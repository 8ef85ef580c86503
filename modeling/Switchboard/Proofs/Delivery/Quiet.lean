/-
**Desks that are quiet.**

* `Desk.UpToDate` — no job has to end yet, and everything that happened is in the journal; jobs may wait for
  idle workers.
* `Desk.Quiet` — a desk that is up to date and where no worker is idle while a job is in the queue.
* `Desk.patient` — a desk is quiet after a run and stays so until the next job ends: it moves on with time
  as if it were by itself.
-/

import Switchboard.Delivery.Desk
import Switchboard.Proofs.Schedule.Dispatcher
import Switchboard.Proofs.Schedule.Timeline

namespace Switchboard

namespace Desk

instance : Timed Desk where
  due? := due?
  run := run

/-- No job has to end, and everything is in the journal. -/
structure UpToDate (now : Nat) (desk : Desk) : Prop where
  waiting : desk.dispatcher.Waiting now
  collected : desk.dispatcher.occurrences = []

/-- A desk is up to date, and no worker is idle while a job is in the queue. -/
structure Quiet (now : Nat) (desk : Desk) : Prop extends UpToDate now desk where
  assigned : desk.dispatcher.Assigned

theorem quiet_run (moment : Moment) (desk : Desk) : (desk.run moment).Quiet moment.clock where
  waiting := desk.dispatcher.waiting_run moment.clock
  assigned := desk.dispatcher.assigned_run moment.clock
  collected := rfl

theorem run_of_quiet {moment : Moment} {desk : Desk} (quiet : desk.Quiet moment.clock) :
    desk.run moment = desk := by
  unfold run
  rw [Dispatcher.run_of_waiting quiet.waiting quiet.assigned]
  unfold collect Dispatcher.collect
  dsimp only
  rw [quiet.collected]
  show { desk with dispatcher := { desk.dispatcher with occurrences := [] } } = desk
  rw [← quiet.collected]

/-- **A desk waits for the end of its jobs.** -/
theorem patient : Timed.Patient Quiet where
  settles := quiet_run
  rests _ _ quiet := run_of_quiet quiet
  ahead _ _ time quiet due := Dispatcher.waiting_iff_due.mp quiet.waiting time due
  waits _ _ _ quiet idle := ⟨⟨Dispatcher.waiting_iff_due.mpr idle, quiet.collected⟩, quiet.assigned⟩

/-- A desk is not drained before it is closed. -/
theorem le_drainTime (desk : Desk) (now : Nat) : now ≤ desk.drainTime now := by
  unfold drainTime
  split
  · exact Nat.le_refl now
  · exact Dispatcher.le_drainTimeFrom _ now _

end Desk

end Switchboard

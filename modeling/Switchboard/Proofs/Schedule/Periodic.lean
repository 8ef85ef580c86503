/-
**Workers that wait.**

* `Periodic.beginTicks_later`, `Periodic.beginTicks_instant`, `Periodic.beginTicks_lasting` — no tick is due, one
  that takes no time begins and others may follow, or one begins that takes time; none follows one that is on
  time (`Periodic.beginTicks_prompt`).
* `Periodic.Ahead` — the next thing that a worker has to do lies ahead.
* `Periodic.ahead_tickCount` — so it is when all ticks that are due have been counted.
* `Periodic.run_of_ahead` — until then there is nothing to do, and counting ticks changes nothing
  (`Periodic.tickCount_of_ahead`).
-/

import Switchboard.Schedule.Periodic

namespace Switchboard

namespace Periodic

variable {now deadline : Nat} {lasts : Nat → Nat} {worker : Periodic}

theorem beginTicks_later (later : now < deadline) :
    worker.beginTicks lasts now deadline = ({ worker with loop := some ⟨deadline, none⟩ }, []) := by
  unfold beginTicks
  rw [dif_neg (Nat.not_le.mpr later)]

theorem beginTicks_instant (due : deadline ≤ now) (instant : lasts worker.begun = 0) :
    worker.beginTicks lasts now deadline =
      let rest := Periodic.beginTicks { worker with begun := worker.begun + 1 } lasts now
        (nextDeadline worker.period now deadline)
      (rest.1, .began now :: rest.2) := by
  rw [beginTicks, dif_pos due]
  exact if_pos instant

theorem beginTicks_lasting (due : deadline ≤ now) (takes : lasts worker.begun ≠ 0) :
    worker.beginTicks lasts now deadline =
      ({ worker with
          begun := worker.begun + 1
          loop := some ⟨nextDeadline worker.period now deadline, some (now + lasts worker.begun)⟩ },
        [.began now]) := by
  rw [beginTicks, dif_pos due]
  exact if_neg takes

/-- The next thing that a worker has to do lies ahead. -/
def Ahead (now : Nat) (worker : Periodic) : Prop := ∀ time, worker.due? = some time → now < time

/-- A worker that has been stopped has nothing to do. -/
theorem ahead_of_stopped (worker : Periodic) (now : Nat) :
    Periodic.Ahead now { worker with loop := none } := fun _ due => by cases due

/-- When the ticks that are due have begun, the next deadline lies ahead. -/
theorem ahead_beginTicks (worker : Periodic) (now deadline : Nat) :
    (worker.beginTicks (fun _ => 0) now deadline).1.Ahead now := by
  induction remaining : now + 1 - deadline using Nat.strongRecOn generalizing worker deadline with
  | ind remaining ih =>
    rcases Nat.lt_or_ge now deadline with later | due
    · rw [beginTicks_later later]
      intro time found
      cases found
      exact later
    · have later := lt_nextDeadline worker.period_pos due
      rw [beginTicks_instant due rfl]
      exact ih _ (by omega) { worker with begun := worker.begun + 1 } _ rfl

/-- **After the ticks that are due the next one lies ahead.** -/
theorem ahead_tickCount (worker : Periodic) (now : Nat) : (worker.tickCount now).2.Ahead now := by
  show (worker.run (fun _ => 0) now).1.Ahead now
  unfold run
  split
  next idle =>
    intro time found
    unfold due? at found
    rw [idle] at found
    cases found
  · exact ahead_beginTicks _ _ _
  next deadline finish busy =>
    split
    · exact ahead_beginTicks _ _ _
    next later =>
      intro time found
      unfold due? at found
      rw [busy] at found
      cases found
      exact Nat.not_le.mp later

/-- **Until then there is nothing to do.** -/
theorem run_of_ahead (ahead : worker.Ahead now) : worker.run lasts now = (worker, []) := by
  unfold run
  split
  · rfl
  next deadline waits =>
    have later : now < deadline := ahead deadline (by unfold due?; rw [waits]; rfl)
    rw [beginTicks_later later, ← waits]
  next deadline finish busy =>
    have later : now < finish := ahead finish (by unfold due?; rw [busy]; rfl)
    rw [if_neg (Nat.not_le.mpr later)]

/-- **Until then no tick is due.** -/
theorem tickCount_of_ahead (ahead : worker.Ahead now) : worker.tickCount now = (0, worker) := by
  unfold tickCount
  rw [run_of_ahead ahead]
  rfl

end Periodic

end Switchboard

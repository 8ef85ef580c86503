/-
**What workers do by themselves.**

* `Dispatcher.Works` — jobs go from the front of the queue to the workers in order, and every job that ends is
  counted once. It holds of `settle`, `run` and of time passing (`Dispatcher.works_settle`,
  `Dispatcher.works_run`, `Dispatcher.works_advance`).
* `Dispatcher.Takes` — one job is taken on: it begins, goes on or ends.
* `Dispatcher.offer_accepts` — a job is accepted exactly if the queue is open and has room.
* `Dispatcher.drained` — a dispatcher that waits for the time that `drainTime` gives has no job left.
-/

import Switchboard.Proofs.Schedule.Dispatcher
import Switchboard.Proofs.Schedule.Timeline

namespace Switchboard

/-- The payload of a job that began. -/
def Occurrence.began? {P : Type} : Occurrence P → Option P
  | began payload => some payload
  | finished _ => none

namespace Dispatcher

variable {P : Type} {wall : Nat → Time.Instant} {now : Nat} {dispatcher : Dispatcher P}

/-- The jobs that began, the first one first. -/
def begun (dispatcher : Dispatcher P) : List P := dispatcher.occurrences.filterMap Occurrence.began?

/-- The jobs that wait, the next one first. -/
def queued (dispatcher : Dispatcher P) : List P := dispatcher.queue.map Job.payload

/-- The number of jobs that have ended. -/
def ended (dispatcher : Dispatcher P) : Nat :=
  dispatcher.stats.completed + dispatcher.stats.failed + dispatcher.stats.timedOut

/-- The number of jobs that have not ended. -/
def load (dispatcher : Dispatcher P) : Nat := dispatcher.queue.length + dispatcher.running.length

/-- What neither the beginning nor the end of a job changes. -/
structure Framed (before after : Dispatcher P) : Prop where
  workers : after.workers = before.workers
  capacity : after.capacity = before.capacity
  closed : after.isShutDown = before.isShutDown
  dispatched : after.stats.dispatched = before.stats.dispatched
  dropped : after.stats.dropped = before.stats.dropped

theorem Framed.refl (dispatcher : Dispatcher P) : dispatcher.Framed dispatcher :=
  ⟨rfl, rfl, rfl, rfl, rfl⟩

theorem Framed.trans {first second third : Dispatcher P} (early : first.Framed second)
    (late : second.Framed third) : first.Framed third where
  workers := late.workers.trans early.workers
  capacity := late.capacity.trans early.capacity
  closed := late.closed.trans early.closed
  dispatched := late.dispatched.trans early.dispatched
  dropped := late.dropped.trans early.dropped

/-- What workers do by themselves: they begin jobs in the order in which these were queued, and every job
is waiting, in progress or counted as ended. -/
structure Works (before after : Dispatcher P) : Prop extends Framed before after where
  order : after.begun ++ after.queued = before.begun ++ before.queued
  balance : after.ended + after.load = before.ended + before.load
  ends : before.ended ≤ after.ended
  waits : after.queue.length ≤ before.queue.length
  busy : before.running.length ≤ before.workers → after.running.length ≤ after.workers

theorem Works.refl (dispatcher : Dispatcher P) : dispatcher.Works dispatcher :=
  ⟨.refl dispatcher, rfl, rfl, Nat.le_refl _, Nat.le_refl _, id⟩

theorem Works.trans {first second third : Dispatcher P} (early : first.Works second)
    (late : second.Works third) : first.Works third where
  toFramed := early.toFramed.trans late.toFramed
  order := late.order.trans early.order
  balance := late.balance.trans early.balance
  ends := Nat.le_trans early.ends late.ends
  waits := Nat.le_trans late.waits early.waits
  busy fits := late.busy (early.busy fits)

/-- Workers never add to what is left to do. -/
theorem Works.load_le {before after : Dispatcher P} (works : before.Works after) :
    after.load ≤ before.load := by
  have balance := works.balance
  have ends := works.ends
  omega

/-! ### Jobs begin and end -/

/-- One job is taken on: it is in progress or has ended. `began` is its payload if it began just now. -/
structure Takes (began : List P) (before after : Dispatcher P) : Prop extends Framed before after where
  order : after.begun = before.begun ++ began
  queue : after.queue = before.queue
  total : after.ended + after.running.length = before.ended + before.running.length + 1
  ends : before.ended ≤ after.ended

theorem begun_note (dispatcher : Dispatcher P) (occurrence : Occurrence P) :
    (dispatcher.note occurrence).begun = dispatcher.begun ++ occurrence.began?.toList := by
  unfold begun note
  rw [List.filterMap_append]
  cases occurrence <;> rfl

/-- A job that ended by itself is counted once. -/
theorem ended_conclude (dispatcher : Dispatcher P) (exit : Exit) :
    (dispatcher.tally (·.conclude exit)).ended = dispatcher.ended + 1 := by
  unfold ended
  cases exit with
  | succeeds =>
    show dispatcher.stats.completed + 1 + dispatcher.stats.failed + dispatcher.stats.timedOut = _
    omega
  | fails | panics =>
    show dispatcher.stats.completed + (dispatcher.stats.failed + 1) + dispatcher.stats.timedOut = _
    omega

/-- It is neither dispatched nor dropped, and leaves a note. -/
theorem framed_conclude (dispatcher : Dispatcher P) (occurrence : Occurrence P) (exit : Exit) :
    dispatcher.Framed ((dispatcher.note occurrence).tally (·.conclude exit)) := by
  cases exit <;> exact ⟨rfl, rfl, rfl, rfl, rfl⟩

theorem ended_finish (dispatcher : Dispatcher P) (job : RunningJob P) :
    (dispatcher.finish job).ended = dispatcher.ended + 1 := by
  unfold finish
  split
  · exact ended_conclude _ _
  · rfl

theorem running_finish (dispatcher : Dispatcher P) (job : RunningJob P) :
    (dispatcher.finish job).running = dispatcher.running := by
  unfold finish
  split <;> rfl

/-- A job that has ended is taken on if it is counted once. -/
theorem Takes.of_ended {began : List P} {before after : Dispatcher P} (frame : before.Framed after)
    (order : after.begun = before.begun ++ began) (queue : after.queue = before.queue)
    (running : after.running = before.running) (ended : after.ended = before.ended + 1) :
    Takes began before after where
  toFramed := frame
  order := order
  queue := queue
  total := by
    rw [ended, running]
    omega
  ends := by
    rw [ended]
    exact Nat.le_succ _

theorem takes_finish (dispatcher : Dispatcher P) (job : RunningJob P) :
    Takes [] dispatcher (dispatcher.finish job) := by
  refine .of_ended ?_ ?_ ?_ (running_finish dispatcher job) (ended_finish dispatcher job)
  · unfold finish
    split
    · exact framed_conclude dispatcher _ _
    · exact ⟨rfl, rfl, rfl, rfl, rfl⟩
  · unfold finish
    split
    · exact begun_note dispatcher (.finished job.payload)
    · exact (List.append_nil _).symm
  · unfold finish
    split <;> rfl

theorem takes_hold (dispatcher : Dispatcher P) (now : Nat) (job : RunningJob P) :
    Takes [] dispatcher (dispatcher.hold now job) := by
  unfold hold
  split
  · exact takes_finish dispatcher job
  · refine ⟨⟨rfl, rfl, rfl, rfl, rfl⟩, (List.append_nil _).symm, rfl, ?_, Nat.le_refl _⟩
    show dispatcher.ended + (dispatcher.running ++ [job]).length = _
    rw [List.length_append, List.length_singleton, Nat.add_assoc]

/-- What a job that began becomes counts from its beginning. -/
theorem Takes.of_note {dispatcher after : Dispatcher P} {payload : P}
    (takes : Takes [] (dispatcher.note (.began payload)) after) : Takes [payload] dispatcher after where
  toFramed := ⟨takes.workers, takes.capacity, takes.closed, takes.dispatched, takes.dropped⟩
  order := by
    rw [takes.order, begun_note, List.append_nil]
    rfl
  queue := takes.queue
  total := takes.total
  ends := takes.ends

/-- **A job that begins is in progress, or is counted once at once.** -/
theorem takes_begin (dispatcher : Dispatcher P) (now : Nat) (job : Job P) :
    Takes [job.payload] dispatcher (dispatcher.begin now job) := by
  unfold begin
  split
  next exit _ =>
    exact .of_ended (framed_conclude dispatcher _ exit) (begun_note dispatcher (.began job.payload)) rfl rfl
      (ended_conclude _ exit)
  · exact (takes_hold _ _ _).of_note
  · exact (takes_hold _ _ _).of_note

/-! ### Workers go on -/

/-- A job that begins on an idle worker leaves the front of the queue. -/
theorem works_begin (now : Nat) (job : Job P) (rest : List (Job P))
    (idle : dispatcher.running.length < dispatcher.workers) :
    Works { dispatcher with queue := job :: rest }
      { dispatcher.begin now job with queue := rest } := by
  have takes := takes_begin dispatcher now job
  have total := takes.total
  have ends := takes.ends
  refine ⟨⟨takes.workers, takes.capacity, takes.closed, takes.dispatched, takes.dropped⟩, ?_, ?_, ends,
    Nat.le_succ _, ?_⟩
  · show (dispatcher.begin now job).begun ++ rest.map Job.payload =
      dispatcher.begun ++ job.payload :: rest.map Job.payload
    rw [takes.order, List.append_assoc, List.singleton_append]
  · show (dispatcher.begin now job).ended + (rest.length + (dispatcher.begin now job).running.length) =
      dispatcher.ended + ((job :: rest).length + dispatcher.running.length)
    rw [List.length_cons]
    omega
  · intro _
    show (dispatcher.begin now job).running.length ≤ (dispatcher.begin now job).workers
    rw [takes.workers]
    omega

theorem works_assign (now : Nat) (queue : List (Job P)) (dispatcher : Dispatcher P) :
    Works { dispatcher with queue := queue } (assign now queue dispatcher) := by
  induction queue generalizing dispatcher with
  | nil => exact .refl _
  | cons job rest ih =>
    unfold assign
    split
    next idle => exact (works_begin now job rest idle).trans (ih _)
    · exact .refl _

/-- **Idle workers take the jobs in the order in which these were queued.** -/
theorem works_settle (now : Nat) (dispatcher : Dispatcher P) :
    dispatcher.Works (dispatcher.settle now) :=
  works_assign now dispatcher.queue dispatcher

/-- A job that ends gives up its worker and is counted once. -/
theorem works_expireOne (now : Nat) (dispatcher : Dispatcher P) :
    dispatcher.Works (expireOne now dispatcher) := by
  unfold expireOne
  split
  next job found =>
    refine Works.trans ?_ (works_settle now _)
    have listed := List.mem_of_find?_eq_some found
    have shorter : (dispatcher.running.eraseP fun job => job.endsAt ≤ now).length =
        dispatcher.running.length - 1 :=
      List.length_eraseP_of_mem listed (by simpa using List.find?_some found)
    have present := List.length_pos_of_mem listed
    let others := { dispatcher with running := dispatcher.running.eraseP fun job => job.endsAt ≤ now }
    have takes : Takes [] others (others.finish job) := takes_finish others job
    have counted : (others.finish job).ended = dispatcher.ended + 1 := ended_finish others job
    have freed : (others.finish job).running.length = dispatcher.running.length - 1 :=
      (congrArg List.length (running_finish others job)).trans shorter
    have same : (others.finish job).queue = dispatcher.queue := takes.queue
    refine ⟨⟨takes.workers, takes.capacity, takes.closed, takes.dispatched, takes.dropped⟩, ?_, ?_, ?_,
      ?_, ?_⟩
    · unfold queued
      rw [same, takes.order, List.append_nil]
      rfl
    · unfold load
      rw [counted, freed, same]
      omega
    · rw [counted]
      exact Nat.le_succ _
    · exact Nat.le_of_eq (congrArg List.length same)
    · intro fits
      rw [freed, takes.workers]
      exact Nat.le_trans (Nat.sub_le _ _) fits
  · exact .refl _

theorem works_repeat (now times : Nat) (dispatcher : Dispatcher P) :
    dispatcher.Works (Nat.repeat (expireOne now) times dispatcher) :=
  repeat_keeps dispatcher.Works (fun state works => works.trans (works_expireOne now state))
    (.refl dispatcher) times

/-- **A run moves every job at most from the queue to a worker and from there to one counter.** -/
theorem works_run (now : Nat) (dispatcher : Dispatcher P) : dispatcher.Works (dispatcher.run now) :=
  (works_repeat now _ dispatcher).trans (works_settle now _)

theorem works_advance (wall : Nat → Time.Instant) (now target : Nat) (dispatcher : Dispatcher P) :
    dispatcher.Works (Timed.advance wall now target dispatcher) :=
  Timed.advance_keeps dispatcher.Works (fun moment _ works => works.trans (works_run moment.clock _))
    (.refl dispatcher)

/-- **A dispatcher waits for the end of its jobs.** -/
theorem patient : Timed.Patient fun now (dispatcher : Dispatcher P) =>
    dispatcher.Waiting now ∧ dispatcher.Assigned where
  settles moment dispatcher := ⟨waiting_run moment.clock dispatcher, assigned_run moment.clock dispatcher⟩
  rests _ _ quiet := run_of_waiting quiet.1 quiet.2
  ahead _ _ time quiet due := waiting_iff_due.mp quiet.1 time due
  waits _ _ _ quiet idle := ⟨waiting_iff_due.mpr idle, quiet.2⟩

/-! ### Offers -/

theorem offer_of_free (job : Job P) (isOpen : dispatcher.isShutDown = false)
    (room : dispatcher.queue.length < dispatcher.capacity) :
    dispatcher.offer job = (true, { dispatcher with
      queue := dispatcher.queue ++ [job]
      stats := { dispatcher.stats with dispatched := dispatcher.stats.dispatched + 1 } }) := by
  unfold offer
  rw [isOpen, Bool.false_or, if_neg (by simpa using room)]
  rfl

theorem offer_of_not_free (job : Job P)
    (full : ¬(dispatcher.isShutDown = false ∧ dispatcher.queue.length < dispatcher.capacity)) :
    dispatcher.offer job = (false, { dispatcher with
      stats := { dispatcher.stats with dropped := dispatcher.stats.dropped + 1 } }) := by
  unfold offer
  rw [if_pos]
  · rfl
  · rw [Bool.or_eq_true, decide_eq_true_iff]
    cases closed : dispatcher.isShutDown with
    | true => exact .inl rfl
    | false => exact .inr (Nat.not_lt.mp fun room => full ⟨closed, room⟩)

theorem isShutDown_offer (job : Job P) : (dispatcher.offer job).2.isShutDown = dispatcher.isShutDown := by
  by_cases free : dispatcher.isShutDown = false ∧ dispatcher.queue.length < dispatcher.capacity
  · rw [offer_of_free job free.1 free.2]
  · rw [offer_of_not_free job free]

/-- **A job is accepted exactly if the queue is open and has room.** -/
theorem offer_accepts (job : Job P) : (dispatcher.offer job).1 = true ↔
    dispatcher.isShutDown = false ∧ dispatcher.queue.length < dispatcher.capacity := by
  by_cases free : dispatcher.isShutDown = false ∧ dispatcher.queue.length < dispatcher.capacity
  · rw [offer_of_free job free.1 free.2]
    exact iff_of_true rfl free
  · rw [offer_of_not_free job free]
    exact iff_of_false Bool.false_ne_true free

/-! ### Nothing hangs for ever -/

theorem ended_add_overdue_le_expireOne (now : Nat) (dispatcher : Dispatcher P) :
    dispatcher.ended + dispatcher.overdue now ≤
      (expireOne now dispatcher).ended + (expireOne now dispatcher).overdue now := by
  rw [overdue_expireOne]
  unfold expireOne
  split
  next job found =>
    let others := { dispatcher with running := dispatcher.running.eraseP fun job => job.endsAt ≤ now }
    have counted : (others.finish job).ended = dispatcher.ended + 1 := ended_finish others job
    have settled := (works_settle now (others.finish job)).ends
    show _ ≤ ((others.finish job).settle now).ended + _
    omega
  next none =>
    have nothing := overdue_of_find? none
    omega

/-- Every job that has to end is counted by a run. -/
theorem ended_add_overdue_le_run (now : Nat) (dispatcher : Dispatcher P) :
    dispatcher.ended + dispatcher.overdue now ≤ (dispatcher.run now).ended := by
  let rounds := Nat.repeat (expireOne now) dispatcher.running.length dispatcher
  have counted : dispatcher.ended + dispatcher.overdue now ≤ rounds.ended + rounds.overdue now := by
    let more (state : Dispatcher P) : Prop :=
      dispatcher.ended + dispatcher.overdue now ≤ state.ended + state.overdue now
    refine repeat_keeps more ?_ ?_ _
    · exact fun state bound => Nat.le_trans bound (ended_add_overdue_le_expireOne now state)
    · exact Nat.le_refl _
  have settled := (works_settle now rounds).ends
  have none : rounds.overdue now = 0 := by
    rw [← overdue_settle]
    exact waiting_iff_overdue.mp (waiting_run now dispatcher)
  rw [none] at counted
  exact Nat.le_trans counted settled

/-- Whenever something is due, there is less left to do after a run. -/
theorem load_run_lt {time : Nat} (due : dispatcher.due? = some time) :
    (dispatcher.run time).load < dispatcher.load := by
  have ending : dispatcher.overdue time ≠ 0 := by
    rw [Ne, ← waiting_iff_overdue, waiting_iff_due]
    exact fun later => Nat.lt_irrefl time (later time due)
  have ends := ended_add_overdue_le_run time dispatcher
  have balance := (works_run time dispatcher).balance
  omega

/-- A dispatcher that has been settled is drained as it stands. -/
theorem drainTime_settle (now : Nat) (dispatcher : Dispatcher P) :
    (dispatcher.settle now).drainTime now =
      drainTimeFrom (dispatcher.settle now).load now (dispatcher.settle now) := by
  have assigned : (dispatcher.settle now).Assigned := assigned_assign _ _ _
  unfold drainTime load
  rw [settle_of_assigned assigned]

/-- **A dispatcher that takes no more jobs has none left at the time that is computed for it.** -/
theorem drained (jobs : Nat) (staffed : 0 < dispatcher.workers) (waiting : dispatcher.Waiting now)
    (assigned : dispatcher.Assigned) (few : dispatcher.load ≤ jobs) :
    (Timed.advance wall now (drainTimeFrom jobs now dispatcher) dispatcher).load = 0 := by
  induction jobs generalizing now dispatcher with
  | zero =>
    rw [drainTimeFrom, Timed.advance_done (Nat.le_refl now)]
    exact Nat.le_zero.mp few
  | succ jobs ih =>
    cases due : dispatcher.due? with
    | none =>
      have idle : dispatcher.running = [] := by
        unfold due? at due
        rw [List.min?_eq_none_iff] at due
        exact List.map_eq_nil_iff.mp due
      have taken : dispatcher.queue = [] := by
        refine assigned.resolve_right fun busy => ?_
        rw [idle] at busy
        exact Nat.not_le.mpr staffed busy
      rw [Timed.advance_none due]
      unfold load
      rw [idle, taken]
      rfl
    | some time =>
      have later : now < time := waiting_iff_due.mp waiting time due
      have reached : max time (now + 1) = time := Nat.max_eq_left later
      have finish : drainTimeFrom (jobs + 1) now dispatcher =
          drainTimeFrom jobs time (dispatcher.run time) := by
        rw [drainTimeFrom, due]
        show drainTimeFrom jobs (max time now) (dispatcher.run (max time now)) = _
        rw [Nat.max_eq_left (Nat.le_of_lt later)]
      have near := le_drainTimeFrom jobs time (dispatcher.run time)
      have fewer := load_run_lt due
      have workers := (works_run time dispatcher).workers
      rw [finish, Timed.advance_step (Nat.lt_of_lt_of_le later near) due near, reached]
      exact ih (by rw [workers]; exact staffed) (waiting_run time dispatcher)
        (assigned_run time dispatcher) (by omega)

end Dispatcher

end Switchboard

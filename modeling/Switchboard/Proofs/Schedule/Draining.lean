/-
**A shutdown ends in time.**

When a queue is closed, the jobs in progress have at most one time limit left. From then on every round of one
time limit takes as many jobs off the queue as there are workers, because no worker is idle while a job waits.

* `Dispatcher.Limited` — the jobs in progress end within one time limit of a time; so it is in every state of a
  session (`Session.limited_run`).
* `Dispatcher.Paces` — what workers do by themselves to the end times of jobs (`Dispatcher.paces_run`).
* `Dispatcher.Paced` — the jobs that wait, or are in progress beyond a time, fit into so many rounds of the
  workers; a round goes by with a time limit (`Dispatcher.Paced.next_round`).
* `Dispatcher.drainTimeFrom_le` — then all jobs have ended after so many time limits.
* `Session.shutdowns_end_in_time` — a shutdown takes one time limit and one more for every round of the jobs that wait.
-/

import Mathlib.Algebra.Order.Floor.Div
import Switchboard.Proofs.Schedule.Conservation

namespace Switchboard

namespace Dispatcher

variable {P : Type} {now level workers timeout rounds : Nat} {dispatcher : Dispatcher P}

/-- The number of jobs in progress that end after a time. -/
def late (level : Nat) (dispatcher : Dispatcher P) : Nat :=
  dispatcher.running.countP fun job => level < job.endsAt

/-! ### End times -/

/-- What workers do to the end times of jobs: a job in progress was so before, or it began and ends within the
time limit; and jobs leave the queue one by one for the workers. -/
structure Paces (now : Nat) (before after : Dispatcher P) : Prop where
  workers : after.workers = before.workers
  timeout : after.timeout = before.timeout
  ends : ∀ job ∈ after.running, job ∈ before.running ∨ job.endsAt ≤ now + before.timeout
  pending : ∀ level, after.queue.length + after.late level ≤ before.queue.length + before.late level

theorem Paces.refl (dispatcher : Dispatcher P) : Paces now dispatcher dispatcher :=
  ⟨rfl, rfl, fun _ listed => .inl listed, fun _ => Nat.le_refl _⟩

theorem Paces.trans {first second third : Dispatcher P} (early : Paces now first second)
    (later : Paces now second third) : Paces now first third where
  workers := later.workers.trans early.workers
  timeout := later.timeout.trans early.timeout
  ends job listed := by
    rcases later.ends job listed with before | began
    · exact early.ends job before
    · rw [early.timeout] at began
      exact .inr began
  pending level := Nat.le_trans (later.pending level) (early.pending level)

/-- A job that is ended or goes on is the only one that is added to the jobs in progress. -/
theorem running_hold (now : Nat) (dispatcher : Dispatcher P) (job : RunningJob P) :
    (dispatcher.hold now job).running = dispatcher.running ∨
      (dispatcher.hold now job).running = dispatcher.running ++ [job] := by
  unfold hold
  split
  · exact .inl (running_finish dispatcher job)
  · exact .inr rfl

theorem timeout_finish (dispatcher : Dispatcher P) (job : RunningJob P) :
    (dispatcher.finish job).timeout = dispatcher.timeout := by
  unfold finish
  split <;> rfl

theorem timeout_begin (now : Nat) (dispatcher : Dispatcher P) (job : Job P) :
    (dispatcher.begin now job).timeout = dispatcher.timeout := by
  have held : ∀ running : RunningJob P, ((dispatcher.note (.began job.payload)).hold now running).timeout =
      dispatcher.timeout := by
    intro running
    unfold hold
    split
    · exact timeout_finish _ running
    · rfl
  unfold begin
  split
  · rfl
  · exact held _
  · exact held _

/-- **A job that begins ends within the time limit.** -/
theorem running_begin (now : Nat) (dispatcher : Dispatcher P) (job : Job P) :
    (dispatcher.begin now job).running = dispatcher.running ∨
      ∃ started, (dispatcher.begin now job).running = dispatcher.running ++ [started] ∧
        started.endsAt ≤ now + dispatcher.timeout := by
  have held : ∀ started : RunningJob P, started.endsAt ≤ now + dispatcher.timeout →
      let after := (dispatcher.note (.began job.payload)).hold now started
      after.running = dispatcher.running ∨
        ∃ started, after.running = dispatcher.running ++ [started] ∧
          started.endsAt ≤ now + dispatcher.timeout := by
    intro started limited
    exact (running_hold now (dispatcher.note (.began job.payload)) started).imp id fun added =>
      ⟨started, added, limited⟩
  unfold begin
  split
  · exact .inl rfl
  · exact held _ (Nat.min_le_right _ _)
  · exact held _ (Nat.le_refl _)

/-- A job that begins leaves the queue. -/
theorem paces_begin (now : Nat) (dispatcher : Dispatcher P) (job : Job P) (rest : List (Job P)) :
    Paces now { dispatcher with queue := job :: rest } { dispatcher.begin now job with queue := rest } where
  workers := (takes_begin dispatcher now job).workers
  timeout := timeout_begin now dispatcher job
  ends other listed := by
    change other ∈ (dispatcher.begin now job).running at listed
    rcases running_begin now dispatcher job with same | ⟨started, added, limited⟩
    · rw [same] at listed
      exact .inl listed
    · rw [added, List.mem_append, List.mem_singleton] at listed
      rcases listed with before | rfl
      · exact .inl before
      · exact .inr limited
  pending level := by
    show rest.length + (dispatcher.begin now job).late level ≤ (job :: rest).length + dispatcher.late level
    have one : (dispatcher.begin now job).late level ≤ dispatcher.late level + 1 := by
      unfold late
      rcases running_begin now dispatcher job with same | ⟨started, added, _⟩
      · rw [same]
        exact Nat.le_succ _
      · rw [added, List.countP_append]
        exact Nat.add_le_add_left List.countP_le_length _
    rw [List.length_cons]
    omega

theorem paces_assign (now : Nat) (queue : List (Job P)) (dispatcher : Dispatcher P) :
    Paces now { dispatcher with queue := queue } (assign now queue dispatcher) := by
  induction queue generalizing dispatcher with
  | nil => exact .refl _
  | cons job rest ih =>
    unfold assign
    split
    · exact (paces_begin now dispatcher job rest).trans (ih _)
    · exact .refl _

theorem paces_settle (now : Nat) (dispatcher : Dispatcher P) : Paces now dispatcher (dispatcher.settle now) :=
  paces_assign now dispatcher.queue dispatcher

theorem paces_expireOne (now : Nat) (dispatcher : Dispatcher P) :
    Paces now dispatcher (expireOne now dispatcher) := by
  unfold expireOne
  split
  next job found =>
    refine Paces.trans ?_ (paces_settle now _)
    let others := { dispatcher with running := dispatcher.running.eraseP fun job => job.endsAt ≤ now }
    have takes : Takes [] others (others.finish job) := takes_finish others job
    have running : (others.finish job).running = others.running := running_finish others job
    refine ⟨takes.workers, timeout_finish others job, fun other listed => ?_, fun level => ?_⟩
    · rw [running] at listed
      exact .inl (List.mem_of_mem_eraseP listed)
    · have fewer : (others.finish job).late level ≤ dispatcher.late level := by
        unfold late
        rw [running]
        exact List.eraseP_sublist.countP_le
      rw [takes.queue]
      exact Nat.add_le_add_left fewer _
  · exact .refl _

/-- **Workers begin jobs that end within the time limit, one for each that they take off the queue.** -/
theorem paces_run (now : Nat) (dispatcher : Dispatcher P) : Paces now dispatcher (dispatcher.run now) :=
  (repeat_keeps (Paces now dispatcher) (fun state paces => paces.trans (paces_expireOne now state))
    (.refl dispatcher) _).trans (paces_settle now _)

/-! ### Limits -/

/-- All jobs in progress end within one time limit of a time. -/
structure Limited (timeout level : Nat) (dispatcher : Dispatcher P) : Prop where
  limit : dispatcher.timeout = timeout
  ends : ∀ job ∈ dispatcher.running, job.endsAt ≤ level + timeout

theorem Limited.paces {after : Dispatcher P} (limited : dispatcher.Limited timeout level)
    (paces : Paces now dispatcher after) (early : now ≤ level) : after.Limited timeout level where
  limit := paces.timeout.trans limited.limit
  ends job listed := by
    rcases paces.ends job listed with before | began
    · exact limited.ends job before
    · rw [limited.limit] at began
      exact Nat.le_trans began (Nat.add_le_add_right early timeout)

theorem Limited.later {target : Nat} (limited : dispatcher.Limited timeout level) (later : level ≤ target) :
    dispatcher.Limited timeout target :=
  ⟨limited.limit, fun job listed =>
    Nat.le_trans (limited.ends job listed) (Nat.add_le_add_right later timeout)⟩

theorem limited_advance {wall : Nat → Time.Instant} {target : Nat} (limited : dispatcher.Limited timeout now)
    (later : now ≤ target) : (Timed.advance wall now target dispatcher).Limited timeout target :=
  Timed.advance_keeps_until (Limited timeout target)
    (fun moment world _ reached kept => kept.paces (paces_run moment.clock world) reached)
    (limited.later later)

/-! ### Rounds -/

/-- Jobs in progress end within one time limit of a time, and those that end after it fit, with the jobs that
wait, into so many rounds of the workers. -/
structure Paced (workers timeout level rounds : Nat) (dispatcher : Dispatcher P) : Prop
    extends Limited timeout level dispatcher where
  staff : dispatcher.workers = workers
  few : dispatcher.queue.length + dispatcher.late level ≤ rounds * workers

theorem Paced.paces {after : Dispatcher P} (paced : dispatcher.Paced workers timeout level rounds)
    (paces : Paces now dispatcher after) (early : now ≤ level) :
    after.Paced workers timeout level rounds where
  toLimited := paced.toLimited.paces paces early
  staff := paces.workers.trans paced.staff
  few := Nat.le_trans (paces.pending level) paced.few

/-- **A round goes by**: once all jobs in progress end after a time, they are a round by themselves, or there is
nothing else to do. -/
theorem Paced.next_round (paced : dispatcher.Paced workers timeout level rounds)
    (assigned : dispatcher.Assigned) (some_left : dispatcher.running ≠ [])
    (reached : ∀ job ∈ dispatcher.running, level < job.endsAt) :
    ∃ fewer, rounds = fewer + 1 ∧ dispatcher.Paced workers timeout (level + timeout) fewer := by
  have all : dispatcher.late level = dispatcher.running.length :=
    List.countP_eq_length.mpr fun job listed => by simpa using reached job listed
  have none : dispatcher.late (level + timeout) = 0 :=
    List.countP_eq_zero.mpr fun job listed => by simpa using paced.ends job listed
  have some_job := List.length_pos_of_ne_nil some_left
  have few := paced.few
  rw [all] at few
  cases rounds with
  | zero =>
    rw [Nat.zero_mul] at few
    omega
  | succ fewer =>
    refine ⟨fewer, rfl, paced.toLimited.later (Nat.le_add_right level timeout), paced.staff, ?_⟩
    rw [none, Nat.add_zero]
    rcases assigned with empty | busy
    · rw [empty]
      exact Nat.zero_le _
    · rw [paced.staff] at busy
      rw [Nat.succ_mul] at few
      omega

/-- **All jobs have ended after as many time limits as there are rounds.** -/
theorem drainTimeFrom_le (jobs : Nat) (paced : dispatcher.Paced workers timeout level rounds)
    (waiting : dispatcher.Waiting now) (assigned : dispatcher.Assigned)
    (reached : now ≤ level + rounds * timeout) :
    drainTimeFrom jobs now dispatcher ≤ level + rounds * timeout := by
  induction jobs generalizing now level rounds dispatcher with
  | zero => exact reached
  | succ jobs ih =>
    unfold drainTimeFrom
    split
    next time due =>
      have ahead : now < time := waiting_iff_due.mp waiting time due
      obtain ⟨first, listed, ending⟩ := List.mem_map.mp (List.min?_mem due)
      have soonest : ∀ job ∈ dispatcher.running, time ≤ job.endsAt := fun job member =>
        (List.min?_eq_some_iff.mp due).2 _ (List.mem_map_of_mem member)
      dsimp only
      rw [Nat.max_eq_left (Nat.le_of_lt ahead)]
      have goes_on : ∀ level rounds, dispatcher.Paced workers timeout level rounds → time ≤ level →
          drainTimeFrom jobs time (dispatcher.run time) ≤ level + rounds * timeout := by
        intro level rounds paced early
        exact ih (paced.paces (paces_run time dispatcher) early) (waiting_run time dispatcher)
          (assigned_run time dispatcher) (Nat.le_trans early (Nat.le_add_right _ _))
      by_cases early : time ≤ level
      · exact goes_on level rounds paced early
      · -- The next job ends after `level`, so they all do.
        have beyond : ∀ job ∈ dispatcher.running, level < job.endsAt := fun job member =>
          Nat.lt_of_lt_of_le (Nat.not_le.mp early) (soonest job member)
        obtain ⟨fewer, rfl, shorter⟩ := paced.next_round assigned (List.ne_nil_of_mem listed) beyond
        have near : time ≤ level + timeout := ending ▸ paced.ends first listed
        have bound := goes_on (level + timeout) fewer shorter near
        rw [Nat.succ_mul]
        omega
    next => exact reached

end Dispatcher

namespace Session

variable {P : Type} {wall : Nat → Time.Instant} {timeout : Nat} {session : Session P}

/-- **Every step leaves all jobs in progress within the time limit.** -/
theorem limited_step (limited : session.dispatcher.Limited timeout session.clock) (step : SessionStep P) :
    (session.step wall step).dispatcher.Limited timeout (session.step wall step).clock := by
  cases step with
  | dispatch job =>
    show (session.dispatcher.offer job).2.Limited timeout session.clock
    by_cases free : session.dispatcher.isShutDown = false ∧
        session.dispatcher.queue.length < session.dispatcher.capacity
    · rw [Dispatcher.offer_of_free job free.1 free.2]
      exact ⟨limited.limit, limited.ends⟩
    · rw [Dispatcher.offer_of_not_free job free]
      exact ⟨limited.limit, limited.ends⟩
  | settle => exact limited.paces (Dispatcher.paces_run _ _) (Nat.le_refl _)
  | advance millis =>
    exact Dispatcher.limited_advance (limited.paces (Dispatcher.paces_run _ _) (Nat.le_refl _))
      (Nat.le_add_right _ _)
  | close => exact ⟨limited.limit, limited.ends⟩
  | drain =>
    simp only [Session.step]
    split
    · exact Dispatcher.limited_advance (limited.paces (Dispatcher.paces_settle _ _) (Nat.le_refl _))
        (Dispatcher.le_drainTimeFrom _ _ _)
    · exact limited

theorem limited_run (limited : session.dispatcher.Limited timeout session.clock)
    (steps : List (SessionStep P)) :
    (run wall session steps).dispatcher.Limited timeout (run wall session steps).clock := by
  induction steps generalizing session with
  | nil => exact limited
  | cons step rest ih => exact ih (limited_step limited step)

/-- A shutdown that begins and returns closes the queue and waits until it is drained. -/
theorem run_close_drain (session : Session P) :
    let closed := session.dispatcher.close.settle session.clock
    let finish := Dispatcher.drainTimeFrom closed.load session.clock closed
    run wall session [.close, .drain] =
      { session with
        clock := finish
        dispatcher := Timed.advance wall session.clock finish closed
        returned := true } := by
  intro closed finish
  have computed : closed.drainTime session.clock = finish := Dispatcher.drainTime_settle _ _
  rw [← computed]
  rfl

/-- **The time that a shutdown takes** is that of the jobs in progress, and that of one round after the other of
the jobs that wait. -/
theorem clock_close_drain {workers capacity : Nat} (staffed : 0 < workers)
    (sound : Sound workers capacity session)
    (limited : session.dispatcher.Limited timeout session.clock) :
    (run wall session [.close, .drain]).clock ≤
      session.clock + (1 + session.dispatcher.queue.length ⌈/⌉ workers) * timeout := by
  let rounds := session.dispatcher.queue.length ⌈/⌉ workers
  let closed := session.dispatcher.close.settle session.clock
  have none : session.dispatcher.close.late (session.clock + timeout) = 0 :=
    List.countP_eq_zero.mpr fun job listed => by simpa using limited.ends job listed
  have fits : session.dispatcher.queue.length ≤ rounds * workers := by
    rw [Nat.mul_comm]
    exact le_smul_ceilDiv staffed
  have before : session.dispatcher.close.Paced workers timeout (session.clock + timeout) rounds :=
    { limit := limited.limit
      ends := (limited.later (Nat.le_add_right session.clock timeout)).ends
      staff := sound.staff
      few := by
        rw [none]
        exact fits }
  have paced : closed.Paced workers timeout (session.clock + timeout) rounds :=
    before.paces (Dispatcher.paces_settle session.clock _) (Nat.le_add_right _ _)
  have waiting : closed.Waiting session.clock := by
    rw [Dispatcher.waiting_iff_overdue, Dispatcher.overdue_settle, ← Dispatcher.waiting_iff_overdue]
    exact sound.waiting
  have assigned : closed.Assigned := Dispatcher.assigned_assign _ _ _
  rw [run_close_drain]
  refine Nat.le_trans (Dispatcher.drainTimeFrom_le closed.load paced waiting assigned (by omega)) ?_
  rw [Nat.add_mul, Nat.one_mul, Nat.add_assoc]

/-- A shutdown that finds the queue closed and all jobs ended changes nothing. -/
theorem run_close_drain_of_done (closed : session.dispatcher.isShutDown = true)
    (done : session.dispatcher.load = 0) :
    ((run wall session [.close, .drain]).clock, (run wall session [.close, .drain]).dispatcher) =
      session.dispatcher.shutDown wall session.clock := by
  have same : session.dispatcher.close = session.dispatcher := by
    unfold Dispatcher.close
    rw [← closed]
  have empty : session.dispatcher.queue = [] :=
    List.eq_nil_of_length_eq_zero (Nat.eq_zero_of_add_eq_zero_right done)
  have settled : session.dispatcher.close.settle session.clock = session.dispatcher := by
    rw [same]
    exact Dispatcher.settle_of_assigned (.inl empty)
  unfold Dispatcher.shutDown
  rw [run_close_drain, settled, done, if_pos closed]
  exact Prod.ext rfl (Timed.advance_done (Nat.le_refl _) _)

/-- **Shutdowns end in time.** Whatever jobs a dispatcher was given and however they behave, and whatever happened
before: a shutdown that begins now returns within one time limit, and one more for every round in which all workers
take a job off the queue. By then every job that was accepted has begun and is counted as completed, failed or timed
out. This is what a shutdown does that is called in this state, unless another one is still under way. -/
theorem shutdowns_end_in_time (wall : Nat → Time.Instant) (workers capacity timeout now : Nat)
    (steps : List (SessionStep P)) :
    let session := run wall ⟨now, .new workers capacity timeout, [], false⟩ steps
    let after := run wall session [.close, .drain]
    ((.close ∈ steps → session.returned = true) →
      (after.clock, after.dispatcher) = session.dispatcher.shutDown wall session.clock) ∧
    after.clock ≤ session.clock + (1 + session.dispatcher.queue.length ⌈/⌉ max workers 1) * timeout ∧
    after.dispatcher.begun = session.accepted ∧
    after.dispatcher.queue = [] ∧ after.dispatcher.running = [] ∧
    session.accepted.length = after.dispatcher.stats.completed + after.dispatcher.stats.failed +
      after.dispatcher.stats.timedOut := by
  intro session after
  let start : Session P := ⟨now, .new workers capacity timeout, [], false⟩
  have staffed : 0 < max workers 1 := Nat.le_max_right _ _
  have new : start.dispatcher.Limited timeout start.clock := ⟨rfl, fun _ listed => by cases listed⟩
  have limited : session.dispatcher.Limited timeout session.clock := limited_run new steps
  have sound : Sound (max workers 1) (max capacity 1) session :=
    sound_run staffed (sound_new workers capacity timeout now) steps
  have drained : Sound (max workers 1) (max capacity 1) after := sound_run staffed sound _
  have accepted : after.accepted = session.accepted := by
    unfold after
    rw [run_close_drain]
    rfl
  have done : after.dispatcher.load = 0 := (drained.finished (by unfold after; rw [run_close_drain])).2
  have order := drained.order
  have balance := drained.balance
  have noneWaits : after.dispatcher.queue = [] :=
    List.eq_nil_of_length_eq_zero (Nat.eq_zero_of_add_eq_zero_right done)
  have noneRuns : after.dispatcher.running = [] :=
    List.eq_nil_of_length_eq_zero (Nat.eq_zero_of_add_eq_zero_left done)
  unfold Dispatcher.queued at order
  rw [noneWaits, List.map_nil, List.append_nil, accepted] at order
  rw [drained.dispatched, accepted, done] at balance
  refine ⟨fun alone => ?_, clock_close_drain staffed sound limited, order.symm, noneWaits, noneRuns, balance⟩
  cases closed : session.dispatcher.isShutDown with
  | false => exact run_shutDown session closed
  | true =>
    have begun : .close ∈ steps :=
      ((isShutDown_run start steps).mp closed).resolve_left Bool.false_ne_true
    exact run_close_drain_of_done closed (sound.finished (alone begun)).2

end Session

end Switchboard

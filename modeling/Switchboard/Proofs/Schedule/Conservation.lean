/-
**No job is lost, begun twice or miscounted.**

* `Session.run` — single jobs dispatched, workers settling, time passing and a shutdown that begins and
  returns, in any order, with the answers given. The calls of a dispatcher are made of such steps
  (`Session.run_offer`, `Session.run_shutDown`).
* `Session.Sound` — the invariant of every session (`Session.sound_run`);
  `Session.jobs_are_conserved` — what follows from it.
-/

import Mathlib.Data.List.Nodup
import Switchboard.Proofs.Schedule.Work

namespace Switchboard

/-! ### Sessions -/

/-- A step in the life of a dispatcher. A shutdown closes the queue, and returns when it is drained; other
steps may come in between. -/
inductive SessionStep (P : Type) where
  | dispatch (job : Job P)
  | settle
  | advance (millis : Nat)
  | close
  | drain

/-- The payload of a job that is dispatched. -/
def SessionStep.payload? {P : Type} : SessionStep P → Option P
  | dispatch job => some job.payload
  | settle | advance _ | close | drain => none

/-- A dispatcher in use: the payload of every job dispatched so far with the answer given, the oldest
first, and whether a shutdown has returned. -/
structure Session (P : Type) where
  clock : Nat
  dispatcher : Dispatcher P
  answers : List (P × Bool) := []
  returned : Bool := false

namespace Session

variable {P : Type} {wall : Nat → Time.Instant} {workers capacity : Nat} {session : Session P}

/-- The session after a step. -/
def step (wall : Nat → Time.Instant) (session : Session P) : SessionStep P → Session P
  | .dispatch job =>
    let (accepted, dispatcher) := session.dispatcher.offer job
    { session with dispatcher, answers := session.answers ++ [(job.payload, accepted)] }
  | .settle => { session with dispatcher := session.dispatcher.run session.clock }
  | .advance millis =>
    { session with
      clock := session.clock + millis
      dispatcher := Timed.advance wall session.clock (session.clock + millis)
        (session.dispatcher.run session.clock) }
  | .close => { session with dispatcher := session.dispatcher.close }
  | .drain =>
    if session.dispatcher.isShutDown then
      let settled := session.dispatcher.settle session.clock
      let finish := settled.drainTime session.clock
      { session with
        clock := finish
        dispatcher := Timed.advance wall session.clock finish settled
        returned := true }
    else session

/-- The session after steps. -/
def run (wall : Nat → Time.Instant) (session : Session P) (steps : List (SessionStep P)) : Session P :=
  steps.foldl (step wall) session

/-- The payloads of the jobs for which the answer was yes, in the order in which they were dispatched. -/
def accepted (session : Session P) : List P := (session.answers.filter (·.2)).map (·.1)

/-- The payloads of the jobs for which the answer was no. -/
def refused (session : Session P) : List P := (session.answers.filter (!·.2)).map (·.1)

theorem run_append (session : Session P) (early late : List (SessionStep P)) :
    run wall session (early ++ late) = run wall (run wall session early) late :=
  List.foldl_append

/-! ### Calls as steps -/

/-- Jobs that are offered together are dispatched one after the other; then workers settle. -/
theorem run_offer (session : Session P) (jobs : List (Job P)) :
    ((run wall session (jobs.map .dispatch ++ [.settle])).clock,
        (run wall session (jobs.map .dispatch ++ [.settle])).dispatcher) =
      ((session.dispatcher.step wall session.clock (.offer jobs)).1,
        (session.dispatcher.step wall session.clock (.offer jobs)).2.2) := by
  rw [run_append]
  induction jobs generalizing session with
  | nil => rfl
  | cons job rest ih => exact ih (session.step wall (.dispatch job))

/-- A shutdown of a dispatcher that is open is its two halves. -/
theorem run_shutDown (session : Session P) (isOpen : session.dispatcher.isShutDown = false) :
    ((run wall session [.close, .drain]).clock, (run wall session [.close, .drain]).dispatcher) =
      session.dispatcher.shutDown wall session.clock := by
  unfold Dispatcher.shutDown
  rw [isOpen]
  rfl

/-! ### What holds in every state -/

/-- The queue and the workers hold no more than they can, nothing is overdue, every call is counted, and
every job that was accepted has ended, is in progress or waits. -/
structure Sound (workers capacity : Nat) (session : Session P) : Prop where
  staff : session.dispatcher.workers = workers
  room : session.dispatcher.capacity = capacity
  waiting : session.dispatcher.Waiting session.clock
  waits : session.dispatcher.queue.length ≤ capacity
  busy : session.dispatcher.running.length ≤ workers
  dispatched : session.dispatcher.stats.dispatched = session.accepted.length
  dropped : session.dispatcher.stats.dropped = session.refused.length
  balance : session.dispatcher.stats.dispatched = session.dispatcher.ended + session.dispatcher.load
  order : session.accepted = session.dispatcher.begun ++ session.dispatcher.queued
  finished : session.returned = true →
    session.dispatcher.isShutDown = true ∧ session.dispatcher.load = 0

theorem sound_new (workers capacity timeout now : Nat) :
    Sound (max workers 1) (max capacity 1)
      (⟨now, .new workers capacity timeout, [], false⟩ : Session P) where
  staff := rfl
  room := rfl
  waiting _ listed := by cases listed
  waits := Nat.zero_le _
  busy := Nat.zero_le _
  dispatched := rfl
  dropped := rfl
  balance := rfl
  order := rfl
  finished before := by cases before

/-- Workers that go on leave a session sound. -/
theorem Sound.works (sound : Sound workers capacity session) {clock : Nat} {after : Dispatcher P}
    (works : session.dispatcher.Works after) (waiting : after.Waiting clock) :
    Sound workers capacity { session with clock, dispatcher := after } where
  staff := works.workers.trans sound.staff
  room := works.capacity.trans sound.room
  waiting := waiting
  waits := Nat.le_trans works.waits sound.waits
  busy := by
    have fits := works.busy (by rw [sound.staff]; exact sound.busy)
    rw [works.workers, sound.staff] at fits
    exact fits
  dispatched := works.dispatched.trans sound.dispatched
  dropped := works.dropped.trans sound.dropped
  balance := by
    show after.stats.dispatched = after.ended + after.load
    rw [works.dispatched, works.balance, sound.balance]
  order := sound.order.trans works.order.symm
  finished before := by
    obtain ⟨closed, done⟩ := sound.finished before
    have less := works.load_le
    rw [done] at less
    exact ⟨works.closed.trans closed, Nat.le_zero.mp less⟩

theorem accepted_of_answer {after : Session P} {payload : P} {answer : Bool}
    (answered : after.answers = session.answers ++ [(payload, answer)]) :
    after.accepted = session.accepted ++ if answer then [payload] else [] := by
  unfold accepted
  rw [answered, List.filter_append, List.map_append]
  cases answer <;> rfl

theorem refused_of_answer {after : Session P} {payload : P} {answer : Bool}
    (answered : after.answers = session.answers ++ [(payload, answer)]) :
    after.refused = session.refused ++ if answer then [] else [payload] := by
  unfold refused
  rw [answered, List.filter_append, List.map_append]
  cases answer <;> rfl

theorem step_dispatch {job : Job P} {answer : Bool} {after : Dispatcher P}
    (offered : session.dispatcher.offer job = (answer, after)) :
    session.step wall (.dispatch job) =
      { session with dispatcher := after, answers := session.answers ++ [(job.payload, answer)] } := by
  simp only [step, offered]

/-- A job that is dispatched joins the end of the queue, or is dropped. -/
theorem sound_dispatch (sound : Sound workers capacity session) (job : Job P) :
    Sound workers capacity (session.step wall (.dispatch job)) := by
  by_cases free : session.dispatcher.isShutDown = false ∧ session.dispatcher.queue.length < capacity
  · obtain ⟨isOpen, room⟩ := free
    rw [← sound.room] at room
    have offered := Dispatcher.offer_of_free job isOpen room
    rw [step_dispatch offered]
    refine ⟨sound.staff, sound.room, sound.waiting, ?_, sound.busy, ?_, ?_, ?_, ?_, ?_⟩
    · show (session.dispatcher.queue ++ [job]).length ≤ capacity
      rw [List.length_append, ← sound.room]
      exact room
    · show session.dispatcher.stats.dispatched + 1 = _
      rw [accepted_of_answer rfl, List.length_append, sound.dispatched]
      rfl
    · show session.dispatcher.stats.dropped = _
      rw [refused_of_answer rfl, List.length_append, sound.dropped]
      rfl
    · have balance := sound.balance
      unfold Dispatcher.load at balance
      show session.dispatcher.stats.dispatched + 1 = session.dispatcher.ended +
        ((session.dispatcher.queue ++ [job]).length + session.dispatcher.running.length)
      rw [List.length_append, List.length_singleton]
      omega
    · show _ = session.dispatcher.begun ++ (session.dispatcher.queue ++ [job]).map Job.payload
      rw [accepted_of_answer rfl, sound.order, List.map_append, List.append_assoc]
      rfl
    · intro before
      have closed := (sound.finished before).1
      rw [isOpen] at closed
      cases closed
  · have offered := Dispatcher.offer_of_not_free job (by rw [sound.room]; exact free)
    rw [step_dispatch offered]
    refine ⟨sound.staff, sound.room, sound.waiting, sound.waits, sound.busy, ?_, ?_, sound.balance, ?_,
      sound.finished⟩
    · show session.dispatcher.stats.dispatched = _
      rw [accepted_of_answer rfl, List.length_append, sound.dispatched]
      rfl
    · show session.dispatcher.stats.dropped + 1 = _
      rw [refused_of_answer rfl, List.length_append, sound.dropped]
      rfl
    · show _ = session.dispatcher.begun ++ session.dispatcher.queued
      rw [accepted_of_answer rfl, sound.order]
      exact List.append_nil _

/-- A shutdown that returns leaves nothing to do. -/
theorem sound_drain (staffed : 0 < workers) (sound : Sound workers capacity session) :
    Sound workers capacity (session.step wall .drain) := by
  simp only [step]
  split
  next closed =>
    let settled := session.dispatcher.settle session.clock
    let finish := settled.drainTime session.clock
    have settles : session.dispatcher.Works settled := Dispatcher.works_settle _ _
    have works := settles.trans (Dispatcher.works_advance wall session.clock finish settled)
    have waiting : settled.Waiting session.clock := by
      rw [Dispatcher.waiting_iff_overdue, Dispatcher.overdue_settle,
        ← Dispatcher.waiting_iff_overdue]
      exact sound.waiting
    have assigned : settled.Assigned := Dispatcher.assigned_assign _ _ _
    have computed : finish = Dispatcher.drainTimeFrom settled.load session.clock settled :=
      Dispatcher.drainTime_settle session.clock session.dispatcher
    have done : (Timed.advance wall session.clock finish settled).load = 0 := by
      rw [computed]
      refine Dispatcher.drained _ ?_ waiting assigned (Nat.le_refl _)
      rw [settles.workers, sound.staff]
      exact staffed
    have idle : (Timed.advance wall session.clock finish settled).Waiting finish := by
      intro job listed
      have some := List.length_pos_of_mem listed
      unfold Dispatcher.load at done
      omega
    exact { sound.works works idle with finished := fun _ => ⟨works.closed.trans closed, done⟩ }
  · exact sound

/-- **Every step leaves a session sound.** -/
theorem sound_step (staffed : 0 < workers) (sound : Sound workers capacity session)
    (step : SessionStep P) : Sound workers capacity (session.step wall step) := by
  cases step with
  | dispatch job => exact sound_dispatch sound job
  | settle => exact sound.works (Dispatcher.works_run _ _) (Dispatcher.waiting_run _ _)
  | advance millis =>
    refine sound.works ((Dispatcher.works_run _ _).trans (Dispatcher.works_advance _ _ _ _)) ?_
    exact (Dispatcher.patient.quiet_advance
      ⟨Dispatcher.waiting_run _ _, Dispatcher.assigned_run _ _⟩ (Nat.le_add_right _ _)).1
  | close => exact { sound with finished := fun before => ⟨rfl, (sound.finished before).2⟩ }
  | drain => exact sound_drain staffed sound

theorem sound_run (staffed : 0 < workers) (sound : Sound workers capacity session)
    (steps : List (SessionStep P)) : Sound workers capacity (run wall session steps) := by
  induction steps generalizing session with
  | nil => exact sound
  | cons step rest ih => exact ih (sound_step staffed sound step)

/-! ### What follows from the steps -/

theorem answers_run (session : Session P) (steps : List (SessionStep P)) :
    (run wall session steps).answers.map Prod.fst =
      session.answers.map Prod.fst ++ steps.filterMap SessionStep.payload? := by
  induction steps generalizing session with
  | nil => exact (List.append_nil _).symm
  | cons step rest ih =>
    refine (ih (session.step wall step)).trans ?_
    cases step with
    | dispatch job =>
      show (session.answers ++ [(job.payload, _)]).map Prod.fst ++ _ = _
      rw [List.map_append, List.append_assoc]
      rfl
    | settle | advance | close => rfl
    | drain =>
      simp only [Session.step]
      split <;> rfl

/-- Nothing opens a queue, and only a shutdown closes it. -/
theorem isShutDown_step {step : SessionStep P} (other : .close ≠ step) :
    (session.step wall step).dispatcher.isShutDown = session.dispatcher.isShutDown := by
  cases step with
  | dispatch job => exact Dispatcher.isShutDown_offer job
  | settle => exact (Dispatcher.works_run _ _).closed
  | advance millis => exact ((Dispatcher.works_run _ _).trans (Dispatcher.works_advance _ _ _ _)).closed
  | close => exact absurd rfl other
  | drain =>
    simp only [Session.step]
    split
    · exact ((Dispatcher.works_settle _ _).trans (Dispatcher.works_advance _ _ _ _)).closed
    · rfl

/-- A queue is closed exactly by a shutdown that begins. -/
theorem isShutDown_run (session : Session P) (steps : List (SessionStep P)) :
    (run wall session steps).dispatcher.isShutDown = true ↔
      session.dispatcher.isShutDown = true ∨ .close ∈ steps := by
  induction steps generalizing session with
  | nil => exact (or_iff_left List.not_mem_nil).symm
  | cons step rest ih =>
    show (run wall (session.step wall step) rest).dispatcher.isShutDown = true ↔ _
    rw [ih, List.mem_cons]
    by_cases closes : .close = step
    · rw [← closes]
      exact iff_of_true (.inl rfl) (.inr (.inl rfl))
    · rw [isShutDown_step closes, or_iff_right closes]

/-- A shutdown that has returned stays so. -/
theorem returned_run (before : session.returned = true) (steps : List (SessionStep P)) :
    (run wall session steps).returned = true := by
  induction steps generalizing session with
  | nil => exact before
  | cons step rest ih =>
    refine ih ?_
    cases step with
    | dispatch | settle | advance | close => exact before
    | drain =>
      simp only [Session.step]
      split
      · rfl
      · exact before

/-- A shutdown that has begun returns. -/
theorem returned_of_drain {early late : List (SessionStep P)} (begins : .close ∈ early) :
    (run wall session (early ++ .drain :: late)).returned = true := by
  have closed : (run wall session early).dispatcher.isShutDown = true :=
    (isShutDown_run session early).mpr (.inr begins)
  rw [run_append]
  refine returned_run ?_ late
  simp only [Session.step]
  rw [if_pos closed]

theorem calls_counted (session : Session P) :
    session.accepted.length + session.refused.length = session.answers.length := by
  unfold accepted refused
  rw [List.length_map, List.length_map]
  exact (List.length_eq_length_filter_add _).symm

/-! ### Conservation -/

/-- The account of a session: no job is lost, begun twice or miscounted. -/
structure Conserves (workers capacity : Nat) (steps : List (SessionStep P)) (session : Session P) :
    Prop where
  /-- The queue holds at most its capacity. -/
  waits : session.dispatcher.queue.length ≤ max capacity 1
  /-- At most one job runs on each worker. -/
  busy : session.dispatcher.running.length ≤ max workers 1
  /-- Every call is answered. -/
  answered : session.answers.map Prod.fst = steps.filterMap SessionStep.payload?
  /-- Every call is counted once. -/
  calls : session.dispatcher.stats.dispatched + session.dispatcher.stats.dropped =
    (steps.filterMap SessionStep.payload?).length
  /-- Every job that was accepted is counted as ended, waits or is in progress. -/
  jobs : session.dispatcher.stats.dispatched = session.dispatcher.stats.completed +
    session.dispatcher.stats.failed + session.dispatcher.stats.timedOut +
      session.dispatcher.queue.length + session.dispatcher.running.length
  /-- The next job is accepted exactly if no shutdown has begun and the queue has room. -/
  accepts : ∀ job, (session.dispatcher.offer job).1 = true ↔
    .close ∉ steps ∧ session.dispatcher.queue.length < max capacity 1
  /-- The jobs that were accepted began in order, each once, except those that wait. -/
  order : session.accepted =
    session.dispatcher.begun ++ session.dispatcher.queue.map Job.payload
  /-- No job begins twice, and no job that was dropped begins. -/
  once : (steps.filterMap SessionStep.payload?).Nodup →
    session.dispatcher.begun.Nodup ∧ ∀ payload ∈ session.refused, payload ∉ session.dispatcher.begun
  /-- When a shutdown has returned, every job that was accepted has begun and ended. -/
  ended : ∀ early late, steps = early ++ .drain :: late → .close ∈ early →
    session.dispatcher.queue = [] ∧ session.dispatcher.running = [] ∧
      session.dispatcher.stats.dispatched = session.dispatcher.stats.completed +
        session.dispatcher.stats.failed + session.dispatcher.stats.timedOut ∧
      session.dispatcher.begun = session.accepted

/-- A job that has begun was not refused, and began once, if all jobs differ. -/
theorem Sound.once (sound : Sound workers capacity session)
    (distinct : (session.answers.map Prod.fst).Nodup) :
    session.dispatcher.begun.Nodup ∧ ∀ payload ∈ session.refused, payload ∉ session.dispatcher.begun := by
  have accepted : session.accepted.Nodup := distinct.sublist (List.filter_sublist.map Prod.fst)
  rw [sound.order] at accepted
  refine ⟨(List.nodup_append.mp accepted).1, fun payload refused began => ?_⟩
  have taken : payload ∈ session.accepted := by
    rw [sound.order]
    exact List.mem_append_left _ began
  obtain ⟨yes, yesListed, rfl⟩ := List.mem_map.mp taken
  obtain ⟨no, noListed, same⟩ := List.mem_map.mp refused
  rw [List.mem_filter] at yesListed noListed
  have one := List.inj_on_of_nodup_map distinct noListed.1 yesListed.1 same
  rw [one, yesListed.2] at noListed
  cases noListed.2

/-- **No job is lost, begun twice or miscounted.** -/
theorem jobs_are_conserved (wall : Nat → Time.Instant) (workers capacity timeout now : Nat)
    (steps : List (SessionStep P)) :
    Conserves workers capacity steps
      (run wall ⟨now, .new workers capacity timeout, [], false⟩ steps) := by
  let start : Session P := ⟨now, .new workers capacity timeout, [], false⟩
  have sound : Sound (max workers 1) (max capacity 1) (run wall start steps) :=
    sound_run (Nat.le_max_right _ _) (sound_new workers capacity timeout now) steps
  have answered : (run wall start steps).answers.map Prod.fst = steps.filterMap SessionStep.payload? :=
    answers_run start steps
  have closed : (run wall start steps).dispatcher.isShutDown = true ↔ .close ∈ steps :=
    (isShutDown_run start steps).trans (or_iff_right Bool.false_ne_true)
  have balance := sound.balance
  unfold Dispatcher.ended Dispatcher.load at balance
  refine ⟨sound.waits, sound.busy, answered, ?_, ?_, ?_, sound.order, ?_, ?_⟩
  · rw [sound.dispatched, sound.dropped, calls_counted, ← answered, List.length_map]
  · rw [balance, Nat.add_assoc _ _ (run wall start steps).dispatcher.running.length]
  · intro job
    rw [Dispatcher.offer_accepts, sound.room, ← closed, Bool.not_eq_true]
  · intro distinct
    rw [← answered] at distinct
    exact sound.once distinct
  · rintro early late rfl begins
    have done := (sound.finished (returned_of_drain begins)).2
    have total := sound.balance
    rw [done] at total
    have order := sound.order
    unfold Dispatcher.load at done
    have noneWaits := List.eq_nil_of_length_eq_zero (Nat.eq_zero_of_add_eq_zero_right done)
    have noneRuns := List.eq_nil_of_length_eq_zero (Nat.eq_zero_of_add_eq_zero_left done)
    unfold Dispatcher.queued at order
    rw [noneWaits] at order
    exact ⟨noneWaits, noneRuns, total, (order.trans (List.append_nil _)).symm⟩

end Session

end Switchboard

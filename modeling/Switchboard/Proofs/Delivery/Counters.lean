/-
**The counters of a desk.**

* `Desk.Counted` — what was accepted of notifications is counted as dispatched, and what was not as dropped; what was
  dispatched has ended, is in progress or waits.
* `Desk.counted_new`, `Desk.Counted.announceAll`, `Desk.Counted.run` — it holds of a new desk, and notices and workers
  keep it.
* `Desk.announceAll_of_shut` — a closed desk counts every delivery as dropped, and nothing else changes.
* `Desk.Finished` — a closed desk with no job left: nothing in it will ever change by itself (`Desk.Finished.run`).
-/

import Mathlib.Data.List.Basic
import Switchboard.Proofs.Delivery.Account

namespace Switchboard

/-- **If no delivery was dropped, all were accepted.** -/
theorem Notification.accepted_of_undropped {notifications : List Notification}
    (fair : ∀ notification ∈ notifications, notification.Fair)
    (none : (notifications.flatMap dropped).length = 0) :
    notifications.flatMap accepted = notifications.flatMap deliveries := by
  refine List.flatMap_congr fun notification listed => ?_
  have undropped := List.flatMap_eq_nil_iff.mp (List.eq_nil_of_length_eq_zero none) notification listed
  rw [(fair notification listed).dropped] at undropped
  rw [(fair notification listed).accepted, ← List.append_nil (List.take _ _), ← undropped,
    List.take_append_drop]

namespace Desk

variable {desk : Desk} {notifications : List Notification} {listeners : Listeners}

/-- What was accepted of notifications was dispatched, and has ended or not; what was not accepted was dropped. -/
structure Counted (notifications : List Notification) (desk : Desk) : Prop where
  dispatched : desk.dispatcher.stats.dispatched = (notifications.flatMap Notification.accepted).length
  dropped : desk.dispatcher.stats.dropped = (notifications.flatMap Notification.dropped).length
  balance : desk.dispatcher.ended + desk.dispatcher.load = desk.dispatcher.stats.dispatched

theorem counted_new (workers capacity timeout : Nat) :
    Counted [] { dispatcher := .new workers capacity timeout } := ⟨rfl, rfl, rfl⟩

/-- Only the dispatcher of a desk counts. -/
theorem Counted.of_same {after : Desk} (counted : desk.Counted notifications)
    (same : after.dispatcher = desk.dispatcher) : after.Counted notifications := by
  obtain ⟨dispatched, dropped, balance⟩ := counted
  rw [← same] at dispatched dropped balance
  exact ⟨dispatched, dropped, balance⟩

/-! ### Notices -/

theorem Counted.announce (counted : desk.Counted notifications) (notice : Notice) :
    (desk.announce listeners notice).Counted (notifications ++ [desk.notify listeners notice]) := by
  have offered : (desk.announce listeners notice).dispatcher = desk.dispatcher.enqueue
      ((jobs listeners notice).take desk.dispatcher.free) ((jobs listeners notice).drop desk.dispatcher.free) :=
    desk.dispatcher.offerAll_eq _
  have balance := counted.balance
  refine ⟨?_, ?_, ?_⟩
  · rw [offered, List.flatMap_append, List.length_append, ← counted.dispatched, List.flatMap_singleton,
      accepted_notify, List.length_map]
    rfl
  · rw [offered, List.flatMap_append, List.length_append, ← counted.dropped, List.flatMap_singleton,
      dropped_notify, List.length_map]
    rfl
  · rw [offered]
    unfold Dispatcher.load Dispatcher.enqueue at *
    show desk.dispatcher.ended + _ = _
    dsimp only
    rw [List.length_append]
    omega

/-- **Notices are counted as they are answered.** -/
theorem Counted.announceAll (counted : desk.Counted notifications) (notices : List Notice) :
    (notices.foldl (Desk.announce listeners) desk).Counted
      (notifications ++ desk.notifyAll listeners notices) := by
  induction notices generalizing desk notifications with
  | nil =>
    show desk.Counted (notifications ++ [])
    rw [List.append_nil]
    exact counted
  | cons notice rest ih =>
    have first : (desk.announce listeners notice).Counted _ := counted.announce notice
    have later := ih first
    rw [List.append_assoc] at later
    exact later

/-! ### Workers -/

/-- **Workers keep the balance.** -/
theorem Counted.run (counted : desk.Counted notifications) (moment : Moment) :
    (desk.run moment).Counted notifications := by
  have works := desk.dispatcher.works_run moment.clock
  exact ⟨works.dispatched.trans counted.dispatched, works.dropped.trans counted.dropped,
    works.balance.trans (counted.balance.trans works.dispatched.symm)⟩

theorem Counted.close (counted : desk.Counted notifications) : desk.close.Counted notifications :=
  ⟨counted.dispatched, counted.dropped, counted.balance⟩

/-! ### Closed desks -/

/-- A desk with more deliveries counted as dropped. -/
def dropping (count : Nat) (desk : Desk) : Desk :=
  { desk with dispatcher := desk.dispatcher.tally fun stats => { stats with dropped := stats.dropped + count } }

theorem dropping_dropping (first second : Nat) (desk : Desk) :
    (desk.dropping first).dropping second = desk.dropping (first + second) := by
  unfold dropping Dispatcher.tally
  simp only [Nat.add_assoc]

theorem dropping_zero (desk : Desk) : desk.dropping 0 = desk := rfl

theorem announce_of_shut (shut : desk.dispatcher.isShutDown = true) (notice : Notice) :
    desk.announce listeners notice =
        desk.dropping (desk.notify listeners notice).deliveries.length ∧
      (desk.notify listeners notice).accepted = [] := by
  have none : desk.dispatcher.free = 0 := if_pos shut
  constructor
  · unfold announce
    rw [Dispatcher.offerAll_eq, none, deliveries_notify, List.length_map]
    unfold Dispatcher.enqueue
    rw [List.take_zero, List.append_nil]
    rfl
  · rw [accepted_notify, none]
    rfl

/-- **A closed desk drops every delivery**, and nothing else changes. -/
theorem announceAll_of_shut (shut : desk.dispatcher.isShutDown = true) (listeners : Listeners)
    (notices : List Notice) :
    notices.foldl (announce listeners) desk =
        desk.dropping ((desk.notifyAll listeners notices).flatMap Notification.deliveries).length ∧
      ∀ notification ∈ desk.notifyAll listeners notices, notification.accepted = [] := by
  induction notices generalizing desk with
  | nil => exact ⟨dropping_zero desk |>.symm, fun _ listed => by cases listed⟩
  | cons notice rest ih =>
    obtain ⟨dropped, none⟩ : desk.announce listeners notice = _ ∧ _ := announce_of_shut shut notice
    have still : (desk.announce listeners notice).dispatcher.isShutDown = true := by
      rw [dropped]
      exact shut
    obtain ⟨droppedLater, noneLater⟩ := ih still
    let count := (desk.notify listeners notice).deliveries.length
    let others := (((desk.announce listeners notice).notifyAll listeners rest).flatMap
      Notification.deliveries).length
    have whole : ((desk.notifyAll listeners (notice :: rest)).flatMap Notification.deliveries).length =
        count + others := by
      rw [notifyAll, List.flatMap_cons, List.length_append]
    refine ⟨?_, List.forall_mem_cons.mpr ⟨none, noneLater⟩⟩
    calc (notice :: rest).foldl (announce listeners) desk
      _ = (desk.announce listeners notice).dropping others := droppedLater
      _ = (desk.dropping count).dropping others := congrArg (dropping others) dropped
      _ = desk.dropping (count + others) := dropping_dropping count others desk
      _ = _ := by rw [whole]

/-! ### Desks that have finished -/

/-- A desk that is closed, has no job left, and has entered everything into the journal. -/
structure Finished (desk : Desk) : Prop where
  shut : desk.dispatcher.isShutDown = true
  queue : desk.dispatcher.queue = []
  running : desk.dispatcher.running = []
  collected : desk.dispatcher.occurrences = []

theorem Finished.quiet (finished : desk.Finished) (now : Nat) : desk.Quiet now where
  waiting job listed := by
    rw [finished.running] at listed
    cases listed
  assigned := .inl finished.queue
  collected := finished.collected

theorem Finished.run (finished : desk.Finished) (moment : Moment) : desk.run moment = desk :=
  run_of_quiet (finished.quiet moment.clock)

theorem Finished.due? (finished : desk.Finished) : desk.due? = none := by
  unfold Desk.due? Dispatcher.due?
  rw [finished.running]
  rfl

theorem Finished.close (finished : desk.Finished) : desk.close = desk := by
  unfold Desk.close Dispatcher.close
  rw [← finished.shut]

theorem Finished.drainTime (finished : desk.Finished) (now : Nat) : desk.drainTime now = now :=
  if_pos finished.shut

theorem Finished.dropping (finished : desk.Finished) (count : Nat) : (desk.dropping count).Finished :=
  ⟨finished.shut, finished.queue, finished.running, finished.collected⟩

/-- Everything that a finished desk has taken has ended. -/
theorem Counted.dispatched_of_finished (counted : desk.Counted notifications) (finished : desk.Finished) :
    desk.dispatcher.stats.dispatched = desk.dispatcher.ended := by
  have balance := counted.balance
  unfold Dispatcher.load at balance
  rw [finished.queue, finished.running] at balance
  exact balance.symm

end Desk

end Switchboard

/-
**Deliveries in order.**

* `Board.notificationsDuring` — the notifications of a run, with the answers of the dispatcher; `Board.acceptedDuring` —
  the deliveries that it accepted.
* `Board.Accounted` — the invariant of every run: what began and what waits is what was accepted, in this order
  (`Board.accounted_step`, `Board.accounted_runSteps`).
* `Board.InOrder` — what is to be said of the deliveries of a run; `Board.deliveries_in_order` — it holds of every run
  of a board that was made from a blueprint, or of any other board with a new desk.
-/

import Switchboard.Proofs.Board.Transparency
import Switchboard.Proofs.Delivery.Account
import Switchboard.Proofs.Repository.Leads

namespace Switchboard

open Act

/-! ### What was accepted -/

namespace Board

/-- The notifications of the notices that were submitted, those about features first. -/
def notifications (board : Board) : List Notification :=
  let ofFeatures := board.features.layered.submitted.map Notice.feature
  let ofProperties := board.properties.layered.submitted.map Notice.property
  let desk := ofFeatures.foldl (Desk.announce board.features.listeners) board.desk
  board.desk.notifyAll board.features.listeners ofFeatures ++
    desk.notifyAll board.properties.listeners ofProperties

/-- The notifications of a step. -/
def notificationsIn (wall : Nat → Time.Instant) (now : Nat) (board : Board) : BoardStep → List Notification
  | .operation asked => ((handle asked).perform ⟨now, wall now⟩ board).2.notifications
  | .settle | .advance _ | .drain | .shutDown => []

/-- The notifications of steps, one after the other. -/
def notificationsDuring (wall : Nat → Time.Instant) : Nat × Board → List BoardStep → List Notification
  | _, [] => []
  | (now, board), next :: rest =>
    board.notificationsIn wall now next ++
      notificationsDuring wall ((board.step wall now next).1, (board.step wall now next).2.2) rest

/-- The deliveries that the dispatcher accepted during steps. -/
def acceptedDuring (wall : Nat → Time.Instant) (start : Nat × Board) (steps : List BoardStep) :
    List Delivery :=
  (notificationsDuring wall start steps).flatMap Notification.accepted

/-- The notices that steps submit, one step after the other. -/
def noticesDuring (wall : Nat → Time.Instant) : Nat × Board → List BoardStep → List Notice
  | _, [] => []
  | (now, board), next :: rest =>
    let (ofFeatures, ofProperties) := board.submits wall now next
    (ofFeatures.map Notice.feature ++ ofProperties.map Notice.property) ++
      noticesDuring wall ((board.step wall now next).1, (board.step wall now next).2.2) rest

end Board

/-- A step ends the deliveries. -/
def BoardStep.Ends : BoardStep → Prop
  | drain | shutDown => True
  | operation _ | settle | advance _ => False

/-- Everything due happens in a step. -/
def BoardStep.Settles : BoardStep → Prop
  | settle | advance _ | drain | shutDown => True
  | operation _ => False

namespace Board

variable {board : Board} {wall : Nat → Time.Instant} {now : Nat}

/-! ### Runs -/

theorem runSteps_append (start : Nat × Board) (early late : List BoardStep) :
    runSteps wall start (early ++ late) = runSteps wall (runSteps wall start early) late := by
  induction early generalizing start with
  | nil => rfl
  | cons next rest ih => exact ih _

theorem notificationsDuring_append (start : Nat × Board) (early late : List BoardStep) :
    notificationsDuring wall start (early ++ late) =
      notificationsDuring wall start early ++
        notificationsDuring wall (runSteps wall start early) late := by
  induction early generalizing start with
  | nil => rfl
  | cons next rest ih =>
    show _ ++ notificationsDuring wall _ (rest ++ late) = (_ ++ _) ++ _
    rw [ih, List.append_assoc]
    rfl

/-- **Every notice becomes one notification, in the order in which the notices were submitted.** -/
theorem notices_notificationsDuring (start : Nat × Board) (steps : List BoardStep) :
    (notificationsDuring wall start steps).map Notification.notice = noticesDuring wall start steps := by
  induction steps generalizing start with
  | nil => rfl
  | cons next rest ih =>
    show (_ ++ _ : List Notification).map Notification.notice = _ ++ _
    rw [List.map_append, ih]
    congr 1
    cases next with
    | operation asked =>
      show (_ ++ _ : List Notification).map Notification.notice = _
      rw [List.map_append, Desk.notices_notifyAll, Desk.notices_notifyAll]
    | settle | advance | drain | shutDown => rfl

theorem fair_notificationsDuring (wall : Nat → Time.Instant) (start : Nat × Board) (steps : List BoardStep) :
    ∀ notification ∈ notificationsDuring wall start steps, notification.Fair := by
  induction steps generalizing start with
  | nil => exact fun _ listed => by cases listed
  | cons next rest ih =>
    intro notification listed
    rcases List.mem_append.mp listed with now | later
    · cases next with
      | operation asked =>
        rcases List.mem_append.mp now with about | about
        · exact Desk.fair_notifyAll _ _ _ notification about
        · exact Desk.fair_notifyAll _ _ _ notification about
      | settle | advance | drain | shutDown => cases now
    · exact ih _ notification later

/-! ### Desks of boards -/

/-- The desk of a board is the same, and the board is as open as before. -/
structure Untouched (before after : Board) : Prop where
  desk : after.desk = before.desk
  isClosed : after.isClosed = before.isClosed

theorem Untouched.refl (board : Board) : Untouched board board := ⟨rfl, rfl⟩

theorem Untouched.trans (first second third : Board) (early : Untouched first second)
    (late : Untouched second third) : Untouched first third :=
  ⟨late.desk.trans early.desk, late.isClosed.trans early.isClosed⟩

theorem untouched_onFeatures {α : Type} (action : Act (Collection Feature FeatureNotice) α) :
    Leads Untouched (onFeatures action) := fun _ _ => ⟨rfl, rfl⟩

theorem untouched_onProperties {α : Type} (action : Act (Collection Property PropertyNotice) α) :
    Leads Untouched (onProperties action) := fun _ _ => ⟨rfl, rfl⟩

/-- **Operations submit notices; they do not deliver them.** Only a reset of the usage reaches the desk. -/
theorem untouched_handle {operation : Operation} (other : operation ≠ .resetUsage) :
    Leads Untouched (handle operation) := by
  cases operation with
  | features call => exact untouched_onFeatures _
  | properties call => exact untouched_onProperties _
  | evaluate | checkAll | secured => exact fun _ _ => ⟨rfl, rfl⟩
  | prepare =>
    exact (untouched_onFeatures _).bind Untouched.trans fun _ => untouched_onProperties _
  | setDefaults context => exact fun _ _ => ⟨rfl, rfl⟩
  | resetUsage => exact absurd rfl other
  | refreshCaches =>
    have properties : Leads Untouched refreshProperties :=
      .get_bind fun _ => .ite
        ((untouched_onProperties _).bind Untouched.trans fun _ => .pure Untouched.refl _)
        (.pure Untouched.refl _)
    exact .get_bind fun _ => .ite
      ((untouched_onFeatures _).bind Untouched.trans fun _ => properties) properties

/-- What every operation leaves of the desk: its dispatcher, and what began. -/
structure SameDesk (before after : Board) : Prop where
  dispatcher : after.desk.dispatcher = before.desk.dispatcher
  begun : after.desk.journal.begun = before.desk.journal.begun
  isClosed : after.isClosed = before.isClosed

theorem sameDesk_handle (operation : Operation) : Leads SameDesk (handle operation) := by
  intro moment board
  by_cases reset : operation = .resetUsage
  · subst reset
    exact ⟨rfl, rfl, rfl⟩
  · obtain ⟨desk, isClosed⟩ := untouched_handle reset moment board
    exact ⟨congrArg Desk.dispatcher desk, congrArg (fun desk : Desk => desk.journal.begun) desk, isClosed⟩

theorem SameDesk.accounted {before after : Board} {accepted : List Delivery} (same : SameDesk before after)
    (accounted : before.desk.Accounted accepted) : after.desk.Accounted accepted where
  account := by
    unfold Desk.account
    rw [same.dispatcher, same.begun]
    exact accounted.account
  staffed := by
    rw [same.dispatcher]
    exact accounted.staffed
  done := by
    rw [same.dispatcher]
    exact accounted.done

/-! ### The invariant of a run -/

/-- The account of the desk of a board is kept, the desk is up to date, and a board that was shut down has a closed
desk. -/
structure Accounted (accepted : List Delivery) (now : Nat) (board : Board) : Prop where
  desk : board.desk.Accounted accepted
  upToDate : board.desk.UpToDate now
  closed : board.isClosed = true → board.desk.dispatcher.isShutDown = true

section Accounted

variable {accepted : List Delivery}

theorem accounted_deliver (accounted : board.desk.Accounted accepted) :
    board.deliver.desk.Accounted
      (accepted ++ board.notifications.flatMap Notification.accepted) := by
  unfold notifications
  rw [List.flatMap_append, ← List.append_assoc]
  exact (accounted.announceAll _).announceAll _

theorem isShutDown_deliver (board : Board) :
    board.deliver.desk.dispatcher.isShutDown = board.desk.dispatcher.isShutDown := by
  unfold deliver takeNotices
  dsimp only
  rw [Desk.announceAll_eq, Desk.announceAll_eq]
  rfl

theorem accounted_operation (accounted : Accounted accepted now board) (asked : Operation) :
    Accounted (accepted ++ (board.notificationsIn wall now (.operation asked)).flatMap
      Notification.accepted) now (board.step wall now (.operation asked)).2.2 := by
  let changed := ((handle asked).perform ⟨now, wall now⟩ board).2
  have same : SameDesk board changed := sameDesk_handle asked ⟨now, wall now⟩ board
  have upToDate : changed.desk.UpToDate now := by
    refine ⟨?_, ?_⟩ <;> rw [same.dispatcher]
    · exact accounted.upToDate.waiting
    · exact accounted.upToDate.collected
  refine ⟨accounted_deliver (same.accounted accounted.desk), (upToDate.announceAll _).announceAll _,
    fun before => ?_⟩
  have shut := accounted.closed (same.isClosed.symm.trans before)
  rw [← same.dispatcher, ← isShutDown_deliver] at shut
  exact shut

theorem accounted_run (accounted : Accounted accepted now board) (moment : Moment) :
    Accounted accepted moment.clock (board.run moment) := by
  have works := Desk.works_run moment board.desk
  exact ⟨accounted.desk.works works, (Desk.quiet_run moment board.desk).toUpToDate,
    fun before => works.closed.trans (accounted.closed before)⟩

theorem isClosed_advance (wall : Nat → Time.Instant) (now target : Nat) (board : Board) :
    (Timed.advance wall now target board).isClosed = board.isClosed :=
  Timed.advance_keeps (fun later : Board => later.isClosed = board.isClosed) (fun _ _ same => same) rfl

theorem accounted_pass (wall : Nat → Time.Instant) (accounted : Accounted accepted now board) {target : Nat}
    (later : now ≤ target) : Accounted accepted target (board.pass wall now target) := by
  have settled := accounted_run accounted ⟨now, wall now⟩
  have works := Desk.works_advance wall now target (board.desk.run ⟨now, wall now⟩)
  rw [← desk_pass] at works
  refine ⟨settled.desk.works works, (quiet_pass wall board later).toUpToDate, fun before => ?_⟩
  unfold pass at before
  rw [isClosed_advance] at before
  exact works.closed.trans (settled.closed before)

/-- **Nothing is left of a desk that was drained.** -/
theorem accounted_drain (wall : Nat → Time.Instant) (accounted : board.desk.Accounted accepted)
    (upToDate : board.desk.UpToDate now) :
    Accounted accepted (board.drain wall now).1 (board.drain wall now).2 ∧
      (board.drain wall now).2.desk.dispatcher.isShutDown = true := by
  let finish := board.desk.drainTime now
  have moved : (board.drain wall now).2.desk =
      Timed.advance wall now finish (board.desk.close.run ⟨now, wall now⟩) :=
    desk_pass wall now finish { board with desk := board.desk.close }
  have ended : (board.drain wall now).2.desk.dispatcher.isShutDown = true := by
    rw [moved, (Desk.works_advance wall now finish _).closed]
    exact (Desk.works_run _ _).closed
  refine ⟨⟨?_, (quiet_drain wall now board).toUpToDate, fun _ => ended⟩, ended⟩
  rw [moved]
  exact accounted.drained upToDate

theorem accounted_shutDown (wall : Nat → Time.Instant) (accounted : Accounted accepted now board) :
    Accounted accepted (board.shutDown wall now).1 (board.shutDown wall now).2 ∧
      (board.shutDown wall now).2.desk.dispatcher.isShutDown = true := by
  unfold shutDown
  split
  next before => exact ⟨accounted, accounted.closed before⟩
  · let stopped : Board := { board.stopAll ⟨now, wall now⟩ with isClosed := true }
    have kept : stopped.desk.Accounted accepted := accounted.desk
    exact accounted_drain wall kept accounted.upToDate

/-- **Every step keeps the account.** -/
theorem accounted_step (wall : Nat → Time.Instant) (accounted : Accounted accepted now board)
    (next : BoardStep) :
    Accounted (accepted ++ (board.notificationsIn wall now next).flatMap Notification.accepted)
      (board.step wall now next).1 (board.step wall now next).2.2 := by
  cases next with
  | operation asked => exact accounted_operation accounted asked
  | settle =>
    rw [notificationsIn, List.flatMap_nil, List.append_nil]
    exact accounted_run accounted ⟨now, wall now⟩
  | advance millis =>
    rw [notificationsIn, List.flatMap_nil, List.append_nil]
    exact accounted_pass wall accounted (Nat.le_add_right now millis)
  | drain =>
    rw [notificationsIn, List.flatMap_nil, List.append_nil]
    exact (accounted_drain wall accounted.desk accounted.upToDate).1
  | shutDown =>
    rw [notificationsIn, List.flatMap_nil, List.append_nil]
    exact (accounted_shutDown wall accounted).1

/-- **When everything due has happened, no worker is idle while a delivery waits.** -/
theorem assigned_step (wall : Nat → Time.Instant) (accounted : Accounted accepted now board) {next : BoardStep}
    (settles : next.Settles) : (board.step wall now next).2.2.desk.dispatcher.Assigned := by
  cases next with
  | operation asked => exact settles.elim
  | settle => exact (Desk.quiet_run ⟨now, wall now⟩ board.desk).assigned
  | advance millis => exact (quiet_pass wall board (Nat.le_add_right now millis)).assigned
  | drain => exact (quiet_drain wall now board).assigned
  | shutDown =>
    -- A board that was shut down before has nothing left to assign.
    obtain ⟨kept, shut⟩ := accounted_shutDown wall accounted
    exact .inl (List.eq_nil_of_length_eq_zero (Nat.eq_zero_of_add_eq_zero_right (kept.desk.done shut)))

/-- **Every run keeps the account.** -/
theorem accounted_runSteps (wall : Nat → Time.Instant) (accounted : Accounted accepted now board)
    (steps : List BoardStep) :
    Accounted (accepted ++ acceptedDuring wall (now, board) steps) (runSteps wall (now, board) steps).1
      (runSteps wall (now, board) steps).2 := by
  induction steps generalizing accepted now board with
  | nil =>
    show Accounted (accepted ++ []) now board
    rw [List.append_nil]
    exact accounted
  | cons next rest ih =>
    have later := ih (accounted_step wall accounted next)
    rw [List.append_assoc] at later
    unfold acceptedDuring notificationsDuring
    rw [List.flatMap_append]
    exact later

/-- Nothing is accepted by the step that ends the deliveries. -/
theorem acceptedDuring_of_ends {start : Nat × Board} {earlier : List BoardStep} {last : BoardStep}
    (ends : last.Ends) :
    acceptedDuring wall start (earlier ++ [last]) = acceptedDuring wall start earlier := by
  have none : ∀ state : Nat × Board, notificationsDuring wall state [last] = [] := by
    intro state
    cases last with
    | operation asked | settle | advance millis => exact ends.elim
    | drain | shutDown => rfl
  unfold acceptedDuring
  rw [notificationsDuring_append, none, List.append_nil]

/-- Of a board with a closed desk, all that was accepted has begun. -/
theorem begun_of_shut (accounted : Accounted accepted now board)
    (shut : board.desk.dispatcher.isShutDown = true) : board.desk.journal.begun = accepted := by
  have none := accounted.desk.done shut
  unfold Dispatcher.load at none
  have empty := List.eq_nil_of_length_eq_zero (Nat.eq_zero_of_add_eq_zero_right none)
  have account := (Desk.account_of_upToDate accounted.upToDate).symm.trans accounted.desk.account
  unfold Dispatcher.queued at account
  rw [empty] at account
  exact (List.append_nil _).symm.trans account

/-- When the deliveries have ended, all that was accepted has begun. -/
theorem begun_of_ended (accounted : Accounted accepted now board) {last : BoardStep} (ends : last.Ends) :
    (board.step wall now last).2.2.desk.journal.begun = accepted := by
  cases last with
  | operation asked | settle | advance millis => exact ends.elim
  | drain =>
    obtain ⟨kept, shut⟩ := accounted_drain wall accounted.desk accounted.upToDate
    exact begun_of_shut kept shut
  | shutDown =>
    obtain ⟨kept, shut⟩ := accounted_shutDown wall accounted
    exact begun_of_shut kept shut

end Accounted

/-! ### Boards with new desks -/

/-- The desk of a board is new, and the board is open. -/
def IsNew (board : Board) : Prop :=
  (∃ workers capacity timeout, board.desk = { dispatcher := .new workers capacity timeout }) ∧
    board.isClosed = false

theorem IsNew.accounted (fresh : board.IsNew) (now : Nat) : Accounted [] now board := by
  obtain ⟨⟨workers, capacity, timeout, desk⟩, isOpen⟩ := fresh
  refine ⟨desk ▸ Desk.accounted_new workers capacity timeout,
    desk ▸ (Desk.quiet_new workers capacity timeout now).toUpToDate, fun closed => ?_⟩
  rw [isOpen] at closed
  cases closed

/-- What is to be said of the deliveries of a run, of which the steps `earlier` are any first part. -/
structure InOrder (wall : Nat → Time.Instant) (now : Nat) (board : Board) (steps : List BoardStep) :
    Prop where
  /-- Every notice becomes one notification, in the order in which the steps submit the notices. -/
  notices : (notificationsDuring wall (now, board) steps).map Notification.notice =
    noticesDuring wall (now, board) steps
  /-- Listeners come in the order of their names, and those are dropped for which no slot was left. -/
  fair : ∀ notification ∈ notificationsDuring wall (now, board) steps, notification.Fair
  /-- What began is a first part of what was accepted, and what was accepted by then and has not begun waits. -/
  begun : ∀ earlier later, steps = earlier ++ later →
    let desk := (runSteps wall (now, board) earlier).2.desk
    desk.journal.begun ++ desk.dispatcher.queued = acceptedDuring wall (now, board) earlier ∧
      desk.journal.begun <+: acceptedDuring wall (now, board) steps
  /-- No worker is idle while a delivery waits, once everything due has happened. -/
  busy : ∀ earlier last later, steps = earlier ++ [last] ++ later → last.Settles →
    (runSteps wall (now, board) (earlier ++ [last])).2.desk.dispatcher.Assigned
  /-- Every listener is told the notices that were accepted for it, in the order of the notices. -/
  told : ∀ earlier later, steps = earlier ++ later → ∀ name,
    (runSteps wall (now, board) earlier).2.desk.journal.toldTo name <+:
      ((notificationsDuring wall (now, board) steps).filter (Notification.Reaches name)).map
        Notification.notice
  /-- When the deliveries have ended, exactly what was accepted has begun, in the same order. -/
  ended : ∀ earlier last, steps = earlier ++ [last] → last.Ends →
    let journal := (runSteps wall (now, board) steps).2.desk.journal
    journal.begun = acceptedDuring wall (now, board) steps ∧
      ∀ name, journal.toldTo name =
        ((notificationsDuring wall (now, board) steps).filter (Notification.Reaches name)).map
          Notification.notice

/-- **Deliveries are in order** on a board with a new desk. -/
theorem inOrder_of_new (fresh : board.IsNew) (wall : Nat → Time.Instant) (now : Nat)
    (steps : List BoardStep) : InOrder wall now board steps := by
  have fair := fair_notificationsDuring wall (now, board) steps
  have reached := fun earlier => accounted_runSteps wall (fresh.accounted now) earlier
  have begun : ∀ earlier later, steps = earlier ++ later →
      let desk := (runSteps wall (now, board) earlier).2.desk
      desk.journal.begun ++ desk.dispatcher.queued = acceptedDuring wall (now, board) earlier ∧
        desk.journal.begun <+: acceptedDuring wall (now, board) steps := by
    rintro earlier later rfl
    have account :=
      (Desk.account_of_upToDate (reached earlier).upToDate).symm.trans (reached earlier).desk.account
    have early : (runSteps wall (now, board) earlier).2.desk.journal.begun <+:
        acceptedDuring wall (now, board) earlier := ⟨_, account⟩
    refine ⟨account, early.trans ?_⟩
    unfold acceptedDuring
    rw [notificationsDuring_append, List.flatMap_append]
    exact List.prefix_append _ _
  have busy : ∀ earlier last later, steps = earlier ++ [last] ++ later → last.Settles →
      (runSteps wall (now, board) (earlier ++ [last])).2.desk.dispatcher.Assigned := by
    intro earlier last _ _ settles
    rw [runSteps_append]
    exact assigned_step wall (reached earlier) settles
  refine ⟨notices_notificationsDuring _ _, fair, begun, busy, fun earlier later parted name => ?_, ?_⟩
  · rw [← Notification.notices_accepted fair]
    exact ((begun earlier later parted).2.filter _).map _
  · rintro earlier last rfl ends
    have all : (runSteps wall (now, board) (earlier ++ [last])).2.desk.journal.begun =
        acceptedDuring wall (now, board) (earlier ++ [last]) := by
      rw [acceptedDuring_of_ends ends, runSteps_append]
      exact begun_of_ended (reached earlier) ends
    refine ⟨all, fun name => ?_⟩
    unfold Journal.toldTo
    rw [all]
    exact Notification.notices_accepted fair name

end Board

/-! ### Boards of blueprints -/

/-- **The desk of a board that was made from a blueprint is new.** -/
theorem Blueprint.isNew_build (blueprint : Blueprint) (moment : Moment) : (blueprint.build moment).IsNew :=
  ⟨⟨_, _, _, rfl⟩, rfl⟩

/-- **Deliveries are in order**, in every run of a board that was made from a blueprint, and of any other board with a
new desk. -/
theorem Board.deliveries_in_order (wall : Nat → Time.Instant) (now : Nat) (steps : List BoardStep) :
    (∀ blueprint : Blueprint, InOrder wall now (blueprint.build ⟨now, wall now⟩) steps) ∧
      ∀ board : Board, board.IsNew → InOrder wall now board steps :=
  ⟨fun blueprint => inOrder_of_new (blueprint.isNew_build _) wall now steps,
    fun _ fresh => inOrder_of_new fresh wall now steps⟩

/-- Two features are saved on a board with one worker, room for three deliveries and two listeners, of which the second
one hangs: three deliveries are accepted, and after a drain all three have begun, in order. -/
theorem Board.deliveries_in_order_of_two :
    let layers : Layers := { cached := false, notifying := true }
    let listeners : Listeners :=
      Std.ExtTreeMap.ofList [("b", Listener.recorder .never), ("a", Listener.recorder (.atOnce .fails))]
    let board : Board :=
      { features := { layers, layered := .new {} 0 1 (fun _ => 0), listeners }
        properties := { layers, layered := .new {} 0 1 (fun _ => 0) }
        desk := { dispatcher := .new 1 3 100 }
        evaluator := { strategies := {}, autoCreate := false } }
    let wall : Nat → Time.Instant := fun _ => .epoch
    let steps : List BoardStep :=
      [.operation (.features (.call (.store (.save [Feature.new "x" .epoch, Feature.new "y" .epoch])))),
        .drain]
    board.IsNew ∧ InOrder wall 0 board steps ∧
      (acceptedDuring wall (0, board) steps).map Delivery.name = ["a", "b", "a"] ∧
      (runSteps wall (0, board) steps).2.desk.journal.begun = acceptedDuring wall (0, board) steps := by
  intro layers listeners board wall steps
  have fresh : board.IsNew := ⟨⟨1, 3, 100, rfl⟩, rfl⟩
  have inOrder : InOrder wall 0 board steps := (deliveries_in_order wall 0 steps).2 board fresh
  have accepted : (acceptedDuring wall (0, board) steps).map Delivery.name = ["a", "b", "a"] := by
    decide +kernel
  exact ⟨fresh, inOrder, accepted, (inOrder.ended steps.dropLast .drain rfl trivial).1⟩

end Switchboard

/-
**Boards at rest.**

* `Collection.Still` — no refresh and no sweep will ever be due. A collection is still when its workers have been
  stopped (`Collection.still_stopAll`), and stays so under every call that starts none of them
  (`Collection.still_handle`).
* `Board.AtRest` — both collections of a board are still, and its desk is closed and has no job left. Time changes
  nothing on such a board, and neither does a drain or a shutdown (`Board.AtRest.pass`, `Board.AtRest.drain`,
  `Board.AtRest.shutDown`); an operation does what it does by itself, and all its deliveries are dropped
  (`Board.AtRest.deliver_desk`).
* `Board.atRest_shutDown` — a board that was shut down is at rest, and it stays so (`Board.AtRest.step`).
-/

import Switchboard.Proofs.Board.Audience
import Switchboard.Proofs.Board.Lasting
import Switchboard.Proofs.Delivery.Counters

namespace Switchboard

open Act

/-! ### Starts -/

/-- A call starts what happens in the background of a collection. -/
def CollectionCall.Starts {C : Type} : CollectionCall C → Prop
  | startRefreshing | startSweeping => True
  | call _ | direct _ | setOnline _ | register _ _ | unregister _ | clearCache | refresh | stopRefreshing
  | stopSweeping => False

/-- An operation starts what happens in the background. -/
def Operation.Starts : Operation → Prop
  | features call => call.Starts
  | properties call => call.Starts
  | evaluate _ _ _ | checkAll _ | secured _ _ | prepare | setDefaults _ | refreshCaches | resetUsage => False

/-- A step starts what happens in the background. -/
def BoardStep.Starts : BoardStep → Prop
  | operation asked => asked.Starts
  | settle | advance _ | drain | shutDown => False

/-! ### Collections -/

namespace Collection

variable {E N : Type} {collection : Collection E N}

/-- No refresh and no sweep will ever be due. -/
def Still (collection : Collection E N) : Prop := ∀ now, collection.Quiet now

theorem Still.due? (still : collection.Still) : collection.due? = none :=
  Option.eq_none_iff_forall_ne_some.mpr fun time due =>
    Nat.lt_irrefl time (quiet_iff_due.mp (still time) time due)

theorem Still.isRefreshing (still : collection.Still) : collection.isRefreshing = false := by
  unfold Collection.isRefreshing
  cases present : collection.refresher with
  | none => rfl
  | some refresher =>
    have never : refresher.worker.due? = none := Option.eq_none_iff_forall_ne_some.mpr fun time due =>
      Nat.lt_irrefl time ((still time).refresher refresher present time due)
    have stopped : refresher.worker.loop = none := Option.map_eq_none_iff.mp never
    show refresher.worker.loop.isSome = false
    rw [stopped]
    rfl

theorem SameWorkers.still {before after : Collection E N} (same : SameWorkers before after)
    (still : before.Still) : after.Still := fun now => same.quiet (still now)

theorem still_of_leads {α : Type} {action : Act (Collection E N) α} (leads : Leads SameWorkers action) :
    Keeps Still action := fun moment before still => (leads moment before).still still

/-! ### Stops -/

section Stops

variable (moment : Moment) (collection)

theorem turnRefresher_stopped : ((turnRefresher stopped).perform moment collection).2 =
    { collection with refresher := collection.refresher.map fun refresher =>
        { refresher with worker := { refresher.worker with loop := none } } } := by
  unfold turnRefresher
  rw [perform_bind_ok rfl, perform_modifyGet]
  obtain ⟨layers, layered, refresher, sweeper, listeners⟩ := collection
  cases refresher <;> rfl

theorem turnSweeper_stopped : ((turnSweeper stopped).perform moment collection).2 =
    { collection with sweeper := collection.sweeper.map fun sweeper => { sweeper with loop := none } } := by
  unfold turnSweeper
  rw [perform_bind_ok rfl, perform_modifyGet]
  obtain ⟨layers, layered, refresher, sweeper, listeners⟩ := collection
  cases sweeper <;> rfl

variable {collection}

theorem ahead_stoppedRefresher (now : Nat) : ∀ refresher,
    ((turnRefresher stopped).perform moment collection).2.refresher = some refresher →
      refresher.worker.Ahead now := by
  intro refresher present
  rw [turnRefresher_stopped] at present
  obtain ⟨before, _, rfl⟩ := Option.map_eq_some_iff.mp present
  exact Periodic.ahead_of_stopped before.worker now

theorem ahead_stoppedSweeper (now : Nat) : ∀ sweeper,
    ((turnSweeper stopped).perform moment collection).2.sweeper = some sweeper → sweeper.Ahead now := by
  intro sweeper present
  rw [turnSweeper_stopped] at present
  obtain ⟨before, _, rfl⟩ := Option.map_eq_some_iff.mp present
  exact Periodic.ahead_of_stopped before now

theorem still_stopRefreshing : Keeps (Still (E := E) (N := N)) (turnRefresher stopped) := by
  refine fun moment collection still now => ⟨ahead_stoppedRefresher moment now, ?_⟩
  rw [turnRefresher_stopped]
  exact (still now).sweeper

theorem still_stopSweeping : Keeps (Still (E := E) (N := N)) (turnSweeper stopped) := by
  refine fun moment collection still now => ⟨?_, ahead_stoppedSweeper moment now⟩
  rw [turnSweeper_stopped]
  exact (still now).refresher

/-- **A collection is still when its workers have been stopped.** -/
theorem still_stopAll (moment : Moment) (collection : Collection E N) :
    (stopAll.perform moment collection).2.Still := by
  let halfway := ((turnRefresher stopped).perform moment collection).2
  have stops : (stopAll.perform moment collection).2 =
      ((turnSweeper stopped).perform moment halfway).2 := by
    unfold stopAll
    rw [perform_bind_ok rfl, perform_bind_ok rfl]
    rfl
  intro now
  rw [stops]
  refine ⟨?_, ahead_stoppedSweeper moment now⟩
  rw [turnSweeper_stopped]
  exact ahead_stoppedRefresher moment now

end Stops

/-! ### Calls -/

variable [Entity E]

theorem Still.run (still : collection.Still) (moment : Moment) : collection.run moment = collection :=
  run_of_quiet (still moment.clock)

/-- **Every call that starts nothing leaves a collection still.** -/
theorem still_handle {C : Type} {Reply : C → Type} {layered : Layers → Handler Reply (Layered E N)}
    {plain : Handler Reply (Backend E)} {call : CollectionCall C} (unstarted : ¬call.Starts) :
    Keeps Still (handle layered plain call) := by
  cases call with
  | call | direct | setOnline | register | unregister | clearCache =>
    exact still_of_leads fun _ _ => ⟨rfl, rfl⟩
  | refresh => exact still_of_leads sameWorkers_refresh
  | stopRefreshing => exact still_stopRefreshing
  | stopSweeping => exact still_stopSweeping
  | startRefreshing => exact absurd trivial unstarted
  | startSweeping => exact absurd trivial unstarted

end Collection

/-! ### Boards -/

namespace Board

variable {α : Type} {board : Board} {wall : Nat → Time.Instant} {now : Nat}

/-- Both collections of a board are still. -/
structure Still (board : Board) : Prop where
  features : board.features.Still
  properties : board.properties.Still

theorem still_onFeatures {action : Act (Collection Feature FeatureNotice) α}
    (keeps : Keeps Collection.Still action) : Keeps Still (onFeatures action) :=
  keeps.onPart (fun _ still => still.features) fun _ _ still changed => ⟨changed, still.properties⟩

theorem still_onProperties {action : Act (Collection Property PropertyNotice) α}
    (keeps : Keeps Collection.Still action) : Keeps Still (onProperties action) :=
  keeps.onPart (fun _ still => still.properties) fun _ _ still changed => ⟨still.features, changed⟩

theorem still_onFeatureRepository (action : FeatureHandler (Layered Feature FeatureNotice) →
      Act (Layered Feature FeatureNotice) α) : Keeps Still (onFeatureRepository action) :=
  .get_bind fun moment board still =>
    still_onFeatures (Collection.still_of_leads fun _ _ => ⟨rfl, rfl⟩) moment board still

theorem still_refreshCaches : Keeps Still refreshCaches := by
  have features : Keeps Still (onFeatures Collection.refresh) :=
    still_onFeatures (Collection.still_of_leads Collection.sameWorkers_refresh)
  have properties : Keeps Still (onProperties Collection.refresh) :=
    still_onProperties (Collection.still_of_leads Collection.sameWorkers_refresh)
  have second : Keeps Still refreshProperties := by
    refine Keeps.get_bind fun moment board still => ?_
    split
    · exact properties.bind (fun _ => .pure _) moment board still
    · exact still
  refine Keeps.get_bind fun moment board still => ?_
  split
  · exact features.bind (fun _ => second) moment board still
  · exact second moment board still

/-- **Every operation that starts nothing leaves a board still.** -/
theorem still_handle {operation : Operation} (unstarted : ¬operation.Starts) :
    Keeps Still (handle operation) := by
  cases operation with
  | features call => exact still_onFeatures (Collection.still_handle unstarted)
  | properties call => exact still_onProperties (Collection.still_handle unstarted)
  | evaluate | checkAll =>
    exact .get_bind fun moment board still => still_onFeatureRepository _ moment board still
  | secured => exact still_onFeatureRepository _
  | prepare =>
    have features : Keeps Collection.Still (featureCalls (.call (.store .prepare))) :=
      Collection.still_handle id
    have properties : Keeps Collection.Still (propertyCalls (.call (.store .prepare))) :=
      Collection.still_handle id
    exact (still_onFeatures features).bind fun _ => still_onProperties properties
  | setDefaults => exact fun _ _ still => ⟨still.features, still.properties⟩
  | refreshCaches => exact still_refreshCaches
  | resetUsage => exact fun _ _ still => ⟨still.features, still.properties⟩

theorem Still.deliver (still : board.Still) : board.deliver.Still :=
  ⟨fun now => ⟨(still.features now).refresher, (still.features now).sweeper⟩,
    fun now => ⟨(still.properties now).refresher, (still.properties now).sweeper⟩⟩

/-- Only the desk of a still board has something to do. -/
theorem Still.run_eq (still : board.Still) (moment : Moment) :
    board.run moment = { board with desk := board.desk.run moment } := by
  unfold Board.run
  rw [still.features.run, still.properties.run]

theorem stable_still : Stable Still where
  run moment board still := by
    rw [still.run_eq]
    exact ⟨still.features, still.properties⟩
  close still := ⟨still.features, still.properties⟩

theorem still_stopAll (moment : Moment) (board : Board) : (board.stopAll moment).Still :=
  ⟨Collection.still_stopAll moment board.features, Collection.still_stopAll moment board.properties⟩

/-! ### Counters -/

section Counted

variable {notifications : List Notification}

theorem counted_deliver (counted : board.desk.Counted notifications) :
    board.deliver.desk.Counted (notifications ++ board.notifications) := by
  unfold Board.notifications
  rw [← List.append_assoc]
  exact (counted.announceAll _).announceAll _

theorem lasting_counted : Lasting fun board => board.desk.Counted notifications where
  run moment _ counted := counted.run moment
  close counted := counted.close
  stop _ _ counted := counted.of_same rfl

/-- **The counters count every step.** -/
theorem counted_step (wall : Nat → Time.Instant) (now : Nat) (counted : board.desk.Counted notifications)
    (next : BoardStep) :
    (board.step wall now next).2.2.desk.Counted (notifications ++ board.notificationsIn wall now next) := by
  cases next with
  | operation asked =>
    let changed := ((handle asked).perform ⟨now, wall now⟩ board).2
    have same : changed.desk.dispatcher = board.desk.dispatcher :=
      (sameDesk_handle asked ⟨now, wall now⟩ board).dispatcher
    exact counted_deliver (counted.of_same same)
  | settle | advance | drain | shutDown =>
    rw [notificationsIn, List.append_nil]
    exact lasting_counted.step counted fun _ same => by cases same

/-- **The counters count every run.** -/
theorem counted_runSteps (wall : Nat → Time.Instant) (now : Nat)
    (counted : board.desk.Counted notifications) (steps : List BoardStep) :
    (runSteps wall (now, board) steps).2.desk.Counted
      (notifications ++ notificationsDuring wall (now, board) steps) := by
  induction steps generalizing now board notifications with
  | nil =>
    show board.desk.Counted (notifications ++ [])
    rw [List.append_nil]
    exact counted
  | cons next rest ih =>
    have later := ih (board.step wall now next).1 (counted_step wall now counted next)
    rw [List.append_assoc] at later
    exact later

theorem IsNew.counted (fresh : board.IsNew) : board.desk.Counted [] := by
  obtain ⟨⟨workers, capacity, timeout, desk⟩, _⟩ := fresh
  rw [desk]
  exact Desk.counted_new workers capacity timeout

end Counted

/-! ### Boards at rest -/

/-- Both collections of a board are still, and its desk is closed and has no job left. -/
structure AtRest (board : Board) : Prop extends Still board where
  isClosed : board.isClosed = true
  desk : board.desk.Finished

namespace AtRest

theorem run (atRest : board.AtRest) (moment : Moment) : board.run moment = board := by
  rw [atRest.run_eq, atRest.desk.run]

theorem due? (atRest : board.AtRest) : board.due? = none := by
  unfold Board.due?
  rw [atRest.features.due?, atRest.properties.due?, atRest.desk.due?]
  rfl

/-- **Time changes nothing on a board at rest.** -/
theorem advance (atRest : board.AtRest) (target : Nat) : Timed.advance wall now target board = board :=
  Timed.advance_none atRest.due?

theorem pass (atRest : board.AtRest) (target : Nat) : board.pass wall now target = board := by
  unfold Board.pass
  rw [atRest.run, atRest.advance]

theorem drain (atRest : board.AtRest) : board.drain wall now = (now, board) := by
  unfold Board.drain
  rw [atRest.desk.drainTime, atRest.desk.close]
  show (now, board.pass wall now now) = (now, board)
  rw [atRest.pass]

theorem shutDown (atRest : board.AtRest) : board.shutDown wall now = (now, board) :=
  if_pos atRest.isClosed

/-- **Of the notices on a board at rest every delivery is dropped.** -/
theorem deliver_desk (atRest : board.AtRest) :
    board.deliver.desk =
        board.desk.dropping (board.notifications.flatMap Notification.deliveries).length ∧
      ∀ notification ∈ board.notifications, notification.accepted = [] := by
  let ofFeatures := board.features.layered.submitted.map Notice.feature
  let ofProperties := board.properties.layered.submitted.map Notice.property
  let halfway := ofFeatures.foldl (Desk.announce board.features.listeners) board.desk
  let early := board.desk.notifyAll board.features.listeners ofFeatures
  let late := halfway.notifyAll board.properties.listeners ofProperties
  have shut := atRest.desk.shut
  obtain ⟨first, none⟩ : halfway = board.desk.dropping (early.flatMap Notification.deliveries).length ∧ _ :=
    Desk.announceAll_of_shut shut board.features.listeners ofFeatures
  have shut' : halfway.dispatcher.isShutDown = true := by
    rw [first]
    exact shut
  obtain ⟨second, none'⟩ := Desk.announceAll_of_shut shut' board.properties.listeners ofProperties
  have whole : (board.notifications.flatMap Notification.deliveries).length =
      (early.flatMap Notification.deliveries).length + (late.flatMap Notification.deliveries).length := by
    show ((early ++ late).flatMap Notification.deliveries).length = _
    rw [List.flatMap_append, List.length_append]
  constructor
  · calc board.deliver.desk
      _ = halfway.dropping (late.flatMap Notification.deliveries).length := second
      _ = _ := by rw [first, Desk.dropping_dropping, whole]
  · intro notification listed
    rcases List.mem_append.mp listed with listed | listed
    · exact none notification listed
    · exact none' notification listed

theorem deliver (atRest : board.AtRest) : board.deliver.AtRest where
  toStill := atRest.toStill.deliver
  isClosed := atRest.isClosed
  desk := by
    rw [atRest.deliver_desk.1]
    exact atRest.desk.dropping _

/-- **An operation that starts nothing leaves a board at rest.** -/
theorem handle (atRest : board.AtRest) {operation : Operation} (unstarted : ¬operation.Starts)
    (moment : Moment) : ((handle operation).perform moment board).2.AtRest where
  toStill := still_handle unstarted moment board atRest.toStill
  isClosed := (sameDesk_handle operation moment board).isClosed.trans atRest.isClosed
  desk := by
    by_cases reset : operation = .resetUsage
    · subst reset
      exact ⟨atRest.desk.shut, atRest.desk.queue, atRest.desk.running, atRest.desk.collected⟩
    · rw [(untouched_handle reset moment board).desk]
      exact atRest.desk

/-! Of the steps, only operations do anything. -/

theorem step_settle (atRest : board.AtRest) : board.step wall now .settle = (now, .ok (), board) := by
  unfold Board.step
  dsimp only
  rw [atRest.run]

theorem step_advance (atRest : board.AtRest) (millis : Nat) :
    board.step wall now (.advance millis) = (now + millis, .ok (), board) := by
  unfold Board.step
  dsimp only
  rw [atRest.pass]

theorem step_drain (atRest : board.AtRest) : board.step wall now .drain = (now, .ok (), board) := by
  unfold Board.step
  rw [atRest.drain]

theorem step_shutDown (atRest : board.AtRest) :
    board.step wall now .shutDown = (now, .ok (), board) := by
  unfold Board.step
  rw [atRest.shutDown]

/-- **A step that starts nothing leaves a board at rest.** -/
theorem step (atRest : board.AtRest) {next : BoardStep} (unstarted : ¬next.Starts) :
    (board.step wall now next).2.2.AtRest := by
  cases next with
  | operation asked =>
    have rests := atRest.handle unstarted ⟨now, wall now⟩
    exact rests.deliver
  | settle =>
    rw [atRest.step_settle]
    exact atRest
  | advance millis =>
    rw [atRest.step_advance]
    exact atRest
  | drain =>
    rw [atRest.step_drain]
    exact atRest
  | shutDown =>
    rw [atRest.step_shutDown]
    exact atRest

theorem runSteps (atRest : board.AtRest) {steps : List BoardStep} (unstarted : ∀ next ∈ steps, ¬next.Starts) :
    (runSteps wall (now, board) steps).2.AtRest :=
  runSteps_keeps AtRest (fun _ _ next listed atRest => atRest.step (unstarted next listed)) atRest

end AtRest

/-! ### Shutdowns -/

/-- **Once it was shut down, a board is still**, if nothing is started again. -/
theorem stilled_step (stilled : board.isClosed = true → board.Still) {next : BoardStep}
    (unstarted : ¬next.Starts) :
    (board.step wall now next).2.2.isClosed = true → (board.step wall now next).2.2.Still := by
  intro closed
  cases next with
  | operation asked =>
    have before := (sameDesk_handle asked ⟨now, wall now⟩ board).isClosed.symm.trans closed
    have changed := still_handle unstarted ⟨now, wall now⟩ board (stilled before)
    exact changed.deliver
  | settle => exact stable_still.run ⟨now, wall now⟩ (stilled closed)
  | advance millis =>
    have before := (isClosed_advance wall now (now + millis) _).symm.trans closed
    exact stable_still.pass (stilled before) _
  | drain =>
    have before := (isClosed_advance wall now _ _).symm.trans closed
    exact stable_still.drain (stilled before)
  | shutDown =>
    show (board.shutDown wall now).2.Still
    unfold shutDown
    split
    next before => exact stilled before
    · have stopped := still_stopAll ⟨now, wall now⟩ board
      exact stable_still.drain ⟨stopped.features, stopped.properties⟩

theorem stilled_runSteps (wall : Nat → Time.Instant) (now : Nat)
    (stilled : board.isClosed = true → board.Still) {steps : List BoardStep}
    (unstarted : ∀ next ∈ steps, ¬next.Starts) :
    (runSteps wall (now, board) steps).2.isClosed = true →
      (runSteps wall (now, board) steps).2.Still :=
  runSteps_keeps (fun board => board.isClosed = true → board.Still)
    (fun _ _ next listed stilled => stilled_step stilled (unstarted next listed)) stilled

/-- A shutdown closes a board. -/
theorem isClosed_shutDown (wall : Nat → Time.Instant) (now : Nat) (board : Board) :
    (board.shutDown wall now).2.isClosed = true := by
  unfold shutDown
  split
  next before => exact before
  · exact isClosed_advance wall now _ _

/-- **A board that was shut down stays closed.** -/
theorem isClosed_runSteps (closed : board.isClosed = true) (steps : List BoardStep) :
    (runSteps wall (now, board) steps).2.isClosed = true := by
  have lasting : Lasting fun board => board.isClosed = true :=
    { run := fun _ _ closed => closed, close := fun closed => closed, stop := fun _ _ _ => rfl }
  refine runSteps_keeps (fun board => board.isClosed = true) (fun now board next _ closed => ?_) closed
  exact lasting.step closed fun asked _ => (sameDesk_handle asked ⟨now, wall now⟩ board).isClosed.trans closed

theorem isClosed_of_shutDown (wall : Nat → Time.Instant) (now : Nat) (board : Board) {steps : List BoardStep}
    (ended : .shutDown ∈ steps) : (runSteps wall (now, board) steps).2.isClosed = true := by
  obtain ⟨earlier, later, rfl⟩ := List.append_of_mem ended
  rw [runSteps_append]
  exact isClosed_runSteps (isClosed_shutDown wall _ _) later

/-- **A board that was shut down is at rest.** -/
theorem atRest_shutDown (fresh : board.IsNew) (wall : Nat → Time.Instant) (now : Nat)
    {earlier : List BoardStep} (unstarted : ∀ next ∈ earlier, ¬next.Starts) :
    (runSteps wall (now, board) (earlier ++ [.shutDown])).2.AtRest := by
  let reached := runSteps wall (now, board) earlier
  have never : board.isClosed = true → board.Still := by
    intro closed
    rw [fresh.2] at closed
    cases closed
  have stilled : reached.2.isClosed = true → reached.2.Still := stilled_runSteps wall now never unstarted
  have accounted := accounted_runSteps wall (fresh.accounted now) earlier
  obtain ⟨kept, shut⟩ := accounted_shutDown wall accounted
  have idle := kept.desk.done shut
  unfold Dispatcher.load at idle
  rw [runSteps_append]
  refine ⟨?_, isClosed_shutDown wall reached.1 reached.2, shut, ?_, ?_, kept.upToDate.collected⟩
  · exact stilled_step stilled id (isClosed_shutDown wall reached.1 reached.2)
  · exact List.eq_nil_of_length_eq_zero (Nat.eq_zero_of_add_eq_zero_right idle)
  · exact List.eq_nil_of_length_eq_zero (Nat.eq_zero_of_add_eq_zero_left idle)

end Board

end Switchboard

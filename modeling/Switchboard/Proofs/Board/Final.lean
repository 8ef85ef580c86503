/-
**Shutdowns are final.**

* `Board.stepAlone`, `Board.runAlone` — steps in which nothing happens but what is asked: nobody is told of anything, and
  nothing happens in the background.
* `Board.alone_runSteps` — a board at rest answers and keeps the same as if only the operations were made.
* `Board.onlyDrops_runSteps` — at its desk, deliveries are counted as dropped, and the usage may be reset.
* `Board.Final` — what is to be said of a board that was shut down, whatever follows; `Board.shutdown_is_final` — it
  holds in every run of a board that was made from a blueprint, and of any other board with a new desk.
-/

import Switchboard.Proofs.Board.Rest

namespace Switchboard

open Act

/-! ### Desks at which deliveries are dropped -/

/-- From one time to another, a desk has counted deliveries as dropped, and its usage may have been reset. -/
structure Desk.OnlyDrops (count : Nat) (resets : Prop) (before after : Desk) : Prop where
  dispatcher : after.dispatcher = (before.dropping count).dispatcher
  journal : after.journal = { before.journal with usage := after.journal.usage }
  usage : ¬resets → after.journal.usage = before.journal.usage

theorem Desk.OnlyDrops.trans {first second third : Desk} {count count' : Nat} {resets resets' : Prop}
    (early : first.OnlyDrops count resets second) (late : second.OnlyDrops count' resets' third) :
    first.OnlyDrops (count + count') (resets ∨ resets') third where
  dispatcher := by
    rw [← first.dropping_dropping count count', late.dispatcher]
    unfold Desk.dropping
    rw [early.dispatcher]
    rfl
  journal := by
    rw [late.journal, early.journal]
  usage never := by
    rw [not_or] at never
    rw [late.usage never.2, early.usage never.1]

/-- Collections with the same listeners that differ in nothing else. -/
theorem Collection.Alike.eq {E N : Type} {left right : Collection E N}
    (alike : Collection.Alike Eq left right) : left = right := by
  obtain ⟨layers, layered, refresher, sweeper, listeners⟩ := alike
  cases left
  cases right
  congr

namespace Board

variable {board other : Board} {wall : Nat → Time.Instant} {now : Nat}

/-! ### Operations by themselves -/

/-- The clock, the outcome and the board after a step in which nothing happens but what is asked: nobody is told of the
notices, and nothing happens in the background. -/
def stepAlone (wall : Nat → Time.Instant) (now : Nat) (board : Board) :
    (next : BoardStep) → Nat × Except Fault next.Reply × Board
  | .operation asked =>
    let made := (handle asked).perform ⟨now, wall now⟩ board
    (now, made.1, made.2.takeNotices.2.2)
  | .advance millis => (now + millis, .ok (), board)
  | .settle | .drain | .shutDown => (now, .ok (), board)

/-- The time and the board after such steps, one after the other. -/
def runAlone (wall : Nat → Time.Instant) : Nat × Board → List BoardStep → Nat × Board
  | state, [] => state
  | (now, board), next :: rest =>
    runAlone wall ((board.stepAlone wall now next).1, (board.stepAlone wall now next).2.2) rest

/-- Registrations go to both boards, and their desks do not matter. -/
theorem Audience.unheard : Audience Eq fun _ _ => True where
  insert name listener same := congrArg (fun listeners : Listeners => listeners.insert name listener) same
  erase name same := congrArg (fun listeners : Listeners => listeners.erase name) same
  announce _ _ _ := trivial
  run _ _ := trivial
  advance _ _ _ _ := trivial
  resetUsage _ := trivial

/-- Two boards that differ only in their desks. -/
def SameWithin (board other : Board) : Prop := Alike Eq (fun _ _ => True) board other

theorem SameWithin.tells (same : SameWithin board other) (operation : Operation) :
    board.tells operation = other.tells operation := by
  unfold Board.tells
  rw [same.features.listeners, same.properties.listeners]

/-- **A board at rest takes a step as if only the operation were made.** -/
theorem alone_step (atRest : board.AtRest) (same : SameWithin board other) {next : BoardStep}
    (unstarted : ¬next.Starts) :
    (board.step wall now next).1 = (other.stepAlone wall now next).1 ∧
      (board.step wall now next).2.1 = (other.stepAlone wall now next).2.1 ∧
      SameWithin (board.step wall now next).2.2 (other.stepAlone wall now next).2.2 := by
  cases next with
  | operation asked =>
    obtain ⟨outcome, after⟩ := handle_alike Audience.unheard asked ⟨now, wall now⟩ same
    exact ⟨rfl, outcome (same.tells asked),
      { after with features := after.features.taken, properties := after.properties.taken }⟩
  | settle =>
    rw [atRest.step_settle]
    exact ⟨rfl, rfl, same⟩
  | advance millis =>
    rw [atRest.step_advance]
    exact ⟨rfl, rfl, same⟩
  | drain =>
    rw [atRest.step_drain]
    exact ⟨rfl, rfl, same⟩
  | shutDown =>
    rw [atRest.step_shutDown]
    exact ⟨rfl, rfl, same⟩

/-- **A board at rest goes through steps as if only the operations were made.** -/
theorem alone_runSteps (atRest : board.AtRest) (same : SameWithin board other) {steps : List BoardStep}
    (unstarted : ∀ next ∈ steps, ¬next.Starts) :
    (runSteps wall (now, board) steps).1 = (runAlone wall (now, other) steps).1 ∧
      SameWithin (runSteps wall (now, board) steps).2 (runAlone wall (now, other) steps).2 := by
  induction steps generalizing now board other with
  | nil => exact ⟨rfl, same⟩
  | cons next rest ih =>
    obtain ⟨first, others⟩ := List.forall_mem_cons.mp unstarted
    obtain ⟨clock, _, after⟩ : (board.step wall now next).1 = (other.stepAlone wall now next).1 ∧ _ :=
      alone_step atRest same first
    unfold runSteps runAlone
    rw [← clock]
    exact ih (atRest.step first) after others

/-! ### The desk -/

/-- **A step drops all its deliveries** on a board at rest. -/
theorem onlyDrops_step (wall : Nat → Time.Instant) (now : Nat) (atRest : board.AtRest) {next : BoardStep}
    (unstarted : ¬next.Starts) :
    board.desk.OnlyDrops
        ((board.notificationsIn wall now next).flatMap Notification.deliveries).length
        (.operation .resetUsage = next) (board.step wall now next).2.2.desk ∧
      ∀ notification ∈ board.notificationsIn wall now next, notification.accepted = [] := by
  cases next with
  | operation asked =>
    let changed := ((handle asked).perform ⟨now, wall now⟩ board).2
    have rests : changed.AtRest := atRest.handle unstarted ⟨now, wall now⟩
    obtain ⟨dropped, none⟩ := rests.deliver_desk
    refine ⟨?_, none⟩
    show board.desk.OnlyDrops _ _ changed.deliver.desk
    rw [dropped]
    by_cases reset : asked = .resetUsage
    · subst reset
      exact ⟨rfl, rfl, fun never => absurd rfl never⟩
    · have same : changed.desk = board.desk := (untouched_handle reset ⟨now, wall now⟩ board).desk
      rw [same]
      exact ⟨rfl, rfl, fun _ => rfl⟩
  | settle =>
    rw [atRest.step_settle]
    exact ⟨⟨rfl, rfl, fun _ => rfl⟩, fun _ listed => by cases listed⟩
  | advance millis =>
    rw [atRest.step_advance]
    exact ⟨⟨rfl, rfl, fun _ => rfl⟩, fun _ listed => by cases listed⟩
  | drain =>
    rw [atRest.step_drain]
    exact ⟨⟨rfl, rfl, fun _ => rfl⟩, fun _ listed => by cases listed⟩
  | shutDown =>
    rw [atRest.step_shutDown]
    exact ⟨⟨rfl, rfl, fun _ => rfl⟩, fun _ listed => by cases listed⟩

/-- **Steps drop all their deliveries** on a board at rest. -/
theorem onlyDrops_runSteps (wall : Nat → Time.Instant) (now : Nat) (atRest : board.AtRest)
    {steps : List BoardStep} (unstarted : ∀ next ∈ steps, ¬next.Starts) :
    board.desk.OnlyDrops
        ((notificationsDuring wall (now, board) steps).flatMap Notification.deliveries).length
        (.operation .resetUsage ∈ steps) (runSteps wall (now, board) steps).2.desk ∧
      ∀ notification ∈ notificationsDuring wall (now, board) steps, notification.accepted = [] := by
  induction steps generalizing now board with
  | nil => exact ⟨⟨rfl, rfl, fun _ => rfl⟩, fun _ listed => by cases listed⟩
  | cons next rest ih =>
    obtain ⟨first, others⟩ := List.forall_mem_cons.mp unstarted
    obtain ⟨early, none⟩ := onlyDrops_step wall now atRest first
    obtain ⟨late, none'⟩ := ih (board.step wall now next).1 (atRest.step first) others
    unfold notificationsDuring runSteps
    rw [List.flatMap_append, List.length_append, List.mem_cons]
    exact ⟨early.trans late, List.forall_mem_append.mpr ⟨none, none'⟩⟩

/-! ### The end -/

/-- What is to be said of a board that was shut down, with the time when this was done, and of any steps that follow. -/
structure Final (wall : Nat → Time.Instant) (closed : Nat × Board) (later : List BoardStep) : Prop where
  /-- No refresh is scheduled. -/
  unscheduled : (runSteps wall closed later).2.isRefreshing = false
  /-- Nothing is ever due, and time alone changes nothing: neither stores nor caches nor anything else. -/
  timeless : let after := runSteps wall closed later
    (∀ moment, after.2.run moment = after.2) ∧
      ∀ millis, after.2.step wall after.1 (.advance millis) = (after.1 + millis, .ok (), after.2)
  /-- No listener is told of anything, and none leaves anything behind; usage changes only when it is reset. -/
  silent : let journal := (runSteps wall closed later).2.desk.journal
    journal = { closed.2.desk.journal with usage := journal.usage } ∧
      (.operation .resetUsage ∉ later → journal = closed.2.desk.journal)
  /-- Every notice becomes a notification of the listeners, of which every delivery is dropped. -/
  dropped : (notificationsDuring wall closed later).map Notification.notice = noticesDuring wall closed later ∧
    ∀ notification ∈ notificationsDuring wall closed later, notification.Fair ∧ notification.accepted = []
  /-- Dropped deliveries are counted, and nothing else about deliveries changes. -/
  counted : (runSteps wall closed later).2.desk.dispatcher = (closed.2.desk.dropping
    ((notificationsDuring wall closed later).flatMap Notification.deliveries).length).dispatcher
  /-- All that was dispatched has ended. -/
  balanced : let stats := (runSteps wall closed later).2.desk.dispatcher.stats
    stats.dispatched = stats.completed + stats.failed + stats.timedOut
  /-- Another shutdown does nothing. -/
  again : let after := runSteps wall closed later
    after.2.step wall after.1 .shutDown = (after.1, .ok (), after.2)
  /-- Stores and caches, and what is answered, are as if only the operations were made. -/
  serving : let after := runSteps wall closed later
    let alone := runAlone wall closed later
    after.1 = alone.1 ∧ after.2.features = alone.2.features ∧ after.2.properties = alone.2.properties ∧
      ∀ next : BoardStep, ¬next.Starts →
        (after.2.step wall after.1 next).2.1 = (alone.2.stepAlone wall alone.1 next).2.1

theorem SameWithin.refl (board : Board) : SameWithin board board :=
  ⟨⟨rfl, rfl, rfl, rfl, rfl⟩, ⟨rfl, rfl, rfl, rfl, rfl⟩, trivial, rfl, rfl, rfl⟩

/-- **Shutdowns are final** on a board with a new desk. -/
theorem final_of_new (fresh : board.IsNew) (wall : Nat → Time.Instant) (now : Nat)
    {earlier later : List BoardStep} (unstarted : ∀ next ∈ earlier ++ later, ¬next.Starts) :
    Final wall (runSteps wall (now, board) (earlier ++ [.shutDown])) later := by
  obtain ⟨before, afterwards⟩ := List.forall_mem_append.mp unstarted
  let closed := runSteps wall (now, board) (earlier ++ [.shutDown])
  let after := runSteps wall closed later
  have atRest : closed.2.AtRest := atRest_shutDown fresh wall now before
  have still : after.2.AtRest := atRest.runSteps afterwards
  obtain ⟨desk, none⟩ := onlyDrops_runSteps wall closed.1 atRest afterwards
  obtain ⟨clock, same⟩ : after.1 = _ ∧ SameWithin after.2 _ :=
    alone_runSteps atRest (.refl closed.2) afterwards
  have counted := counted_runSteps wall now fresh.counted ((earlier ++ [.shutDown]) ++ later)
  rw [runSteps_append] at counted
  have fair := fair_notificationsDuring wall closed later
  refine ⟨?_, ⟨still.run, fun _ => still.step_advance _⟩, ⟨desk.journal, fun never => ?_⟩,
    ⟨notices_notificationsDuring closed later, fun notification listed => ?_⟩, desk.dispatcher,
    counted.dispatched_of_finished still.desk, still.step_shutDown,
    ⟨clock, same.features.eq, same.properties.eq, fun next unstarted => ?_⟩⟩
  · show (after.2.features.isRefreshing || after.2.properties.isRefreshing) = false
    rw [still.features.isRefreshing, still.properties.isRefreshing]
    rfl
  · rw [desk.journal, desk.usage never]
  · exact ⟨fair notification listed, none notification listed⟩
  · rw [← clock]
    exact (alone_step still same unstarted).2.1

/-- **Shutdowns are final.** Whatever happened before and whatever follows, as long as nothing is started again: nothing
happens in the background any more, no listener is told of anything, every delivery is counted as dropped, and stores and
caches answer as if they were by themselves. So it is with every board that was made from a blueprint, and with every
other board with a new desk. -/
theorem shutdown_is_final (wall : Nat → Time.Instant) (now : Nat) {earlier later : List BoardStep}
    (unstarted : ∀ next ∈ earlier ++ later, ¬next.Starts) :
    (∀ blueprint : Blueprint, Final wall
      (runSteps wall (now, blueprint.build ⟨now, wall now⟩) (earlier ++ [.shutDown])) later) ∧
    ∀ board : Board, board.IsNew →
      Final wall (runSteps wall (now, board) (earlier ++ [.shutDown])) later :=
  ⟨fun blueprint => final_of_new (blueprint.isNew_build _) wall now unstarted,
    fun _ fresh => final_of_new fresh wall now unstarted⟩

/-- A lamp is switched on on a board whose caches are refreshed and swept, while one of two listeners hangs. The shutdown
waits for the listener; when the lamp is switched off and checked later, both listeners and the counter of uses are
passed over. -/
theorem shutdown_is_final_for_lamp :
    let blueprint : Blueprint :=
      { settings :=
          { cache := ⟨true, 10, 1, 3⟩, refresh := ⟨true, 1, 2⟩, notifier := ⟨1, 8, 100⟩
            evaluator := ⟨true, false⟩, logging := ⟨"info", false⟩ }
        features := Store.empty.insert (Feature.new "lamp" .epoch)
        featureListeners := [("a", .recorder (.atOnce .succeeds)), ("b", .recorder .never)] }
    let wall : Nat → Time.Instant := fun _ => .epoch
    let earlier : List BoardStep :=
      [.advance 7, .operation (.features (.call (.setEnabled "lamp" true)))]
    let later : List BoardStep :=
      [.operation (.features (.call (.setEnabled "lamp" false))), .advance 50,
        .operation (.evaluate "lamp" .empty none), .shutDown]
    let start := (0, blueprint.build ⟨0, wall 0⟩)
    let closed := runSteps wall start (earlier ++ [.shutDown])
    let after := runSteps wall closed later
    (∀ next ∈ earlier ++ later, ¬next.Starts) ∧ Final wall closed later ∧
      (runSteps wall start earlier).2.isRefreshing = true ∧ closed.1 = 107 ∧ after.1 = 157 ∧
      closed.2.desk.dispatcher.stats = ⟨3, 2, 0, 1, 0⟩ ∧
      after.2.desk.dispatcher.stats = ⟨3, 2, 0, 1, 3⟩ := by
  intro blueprint wall earlier later start closed after
  have unstarted : ∀ next ∈ earlier ++ later, ¬next.Starts := by
    intro next listed
    simp only [earlier, later, List.cons_append, List.nil_append, List.mem_cons, List.not_mem_nil,
      or_false] at listed
    rcases listed with rfl | rfl | rfl | rfl | rfl | rfl <;> exact fun starts => starts
  refine ⟨unstarted, (shutdown_is_final wall 0 unstarted).1 blueprint, ?_, ?_, ?_, ?_, ?_⟩
  · decide +kernel
  · decide +kernel
  · decide +kernel
  · decide +kernel
  · decide +kernel

end Board

end Switchboard

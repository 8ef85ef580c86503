/-
**Twin boards in time.**

* `Board.Twin.pass` — twins stay twins as time passes, although only one of them is woken by refreshes
  and sweeps: a desk is woken in vain then.
* `BoardStep.Through`, `BoardStep.Control` — the same of steps as of operations.
* `Board.submits` — the notices that a step submits.
* `Board.step_twin` — twins take every step that stays above the stores alike.
-/

import Switchboard.Proofs.Board.Calls
import Switchboard.Proofs.Delivery.Quiet

namespace Switchboard

open Act

namespace Board

variable {decorated plain : Board} {wall : Nat → Time.Instant} {now target : Nat}

/-! ### Deliveries and what is due -/

theorem Twin.deliver (twin : Twin decorated plain) : Twin decorated.deliver plain.deliver where
  features := ⟨twin.features.layers, twin.features.plainLayers,
    ⟨⟨[], rfl, rfl⟩, twin.features.layered.2⟩, twin.features.listeners⟩
  properties := ⟨twin.properties.layers, twin.properties.plainLayers,
    ⟨⟨[], rfl, rfl⟩, twin.properties.layered.2⟩, twin.properties.listeners⟩
  desk := by
    unfold Board.deliver takeNotices
    dsimp only
    rw [twin.features.submitted, twin.properties.submitted, twin.features.listeners,
      twin.properties.listeners, twin.desk]
  evaluator := twin.evaluator
  defaults := twin.defaults
  isClosed := twin.isClosed

theorem Twin.run (twin : Twin decorated plain) (moment : Moment) :
    Twin (decorated.run moment) (plain.run moment) where
  features := twin.features.idle (Collection.idle_run moment _) (Collection.idle_run moment _)
  properties := twin.properties.idle (Collection.idle_run moment _) (Collection.idle_run moment _)
  desk := congrArg (Desk.run moment) twin.desk
  evaluator := twin.evaluator
  defaults := twin.defaults
  isClosed := twin.isClosed

/-! ### Time -/

/-- As time passes, only the desk of a board changes so that a twin could notice. -/
theorem idle_advance (wall : Nat → Time.Instant) (now target : Nat) (board : Board) :
    Idle board { Timed.advance wall now target board with desk := board.desk } := by
  refine Timed.advance_keeps (fun later : Board => Idle board { later with desk := board.desk }) ?_ ?_
  · intro moment later idle
    exact idle.trans ⟨Collection.idle_run moment _, Collection.idle_run moment _, rfl, rfl, rfl, rfl⟩
  · exact Idle.refl board

/-- The desk of a board is woken no later than by itself. -/
theorem due_of_desk (board : Board) (time : Nat) (due : Timed.due? board.desk = some time) :
    ∃ earlier, Timed.due? board = some earlier ∧ earlier ≤ time := by
  refine Timed.soonest_le ?_
  rw [← due]
  exact List.mem_cons_of_mem _ (List.mem_cons_of_mem _ List.mem_cons_self)

/-- The desk of a board moves on as if it were by itself. -/
theorem desk_advance {board : Board} (quiet : board.desk.Quiet now) :
    (Timed.advance wall now target board).desk = Timed.advance wall now target board.desk :=
  Desk.patient.advance_part Board.desk due_of_desk (fun _ _ => rfl) quiet

/-- **Twins stay twins as time passes.** -/
theorem advance_twin (twin : Twin decorated plain) (quiet : decorated.desk.Quiet now) :
    Twin (Timed.advance wall now target decorated) (Timed.advance wall now target plain) := by
  have idle := idle_advance wall now target decorated
  have idle' := idle_advance wall now target plain
  have moved := twin.idle idle idle'
  refine { moved with desk := ?_ }
  rw [desk_advance quiet, desk_advance (twin.desk ▸ quiet), twin.desk]

theorem quiet_advance {board : Board} (quiet : board.desk.Quiet now) (later : now ≤ target) :
    (Timed.advance wall now target board).desk.Quiet target := by
  rw [desk_advance quiet]
  exact Desk.patient.quiet_advance quiet later

/-- The desk of a board begins what waits, and then moves on as if it were by itself. -/
theorem desk_pass (wall : Nat → Time.Instant) (now target : Nat) (board : Board) :
    (board.pass wall now target).desk = Timed.advance wall now target (board.desk.run ⟨now, wall now⟩) :=
  desk_advance (Desk.quiet_run ⟨now, wall now⟩ board.desk)

theorem quiet_pass (wall : Nat → Time.Instant) (board : Board) (later : now ≤ target) :
    (board.pass wall now target).desk.Quiet target :=
  quiet_advance (Desk.quiet_run ⟨now, wall now⟩ board.desk) later

theorem Twin.pass (twin : Twin decorated plain) (wall : Nat → Time.Instant) (now target : Nat) :
    Twin (decorated.pass wall now target) (plain.pass wall now target) :=
  advance_twin (twin.run ⟨now, wall now⟩) (Desk.quiet_run ⟨now, wall now⟩ decorated.desk)

/-! ### Ends -/

theorem quiet_drain (wall : Nat → Time.Instant) (now : Nat) (board : Board) :
    (board.drain wall now).2.desk.Quiet (board.drain wall now).1 :=
  quiet_pass wall { board with desk := board.desk.close } (Desk.le_drainTime board.desk now)

theorem drain_twin (wall : Nat → Time.Instant) (now : Nat) (twin : Twin decorated plain) :
    (decorated.drain wall now).1 = (plain.drain wall now).1 ∧
      Twin (decorated.drain wall now).2 (plain.drain wall now).2 := by
  have same : decorated.desk.drainTime now = plain.desk.drainTime now :=
    congrArg (Desk.drainTime · now) twin.desk
  have closed : Twin { decorated with desk := decorated.desk.close }
      { plain with desk := plain.desk.close } := { twin with desk := congrArg Desk.close twin.desk }
  unfold drain
  dsimp only
  rw [← same]
  exact ⟨rfl, closed.pass wall now _⟩

theorem stopAll_twin (moment : Moment) (twin : Twin decorated plain) :
    Twin (decorated.stopAll moment) (plain.stopAll moment) := by
  have idle : ∀ board : Board, Idle board (board.stopAll moment) := by
    intro board
    exact (idle_onFeatures Collection.unnoticed_stopAll moment board).trans
      (idle_onProperties Collection.unnoticed_stopAll moment _)
  exact twin.idle (idle decorated) (idle plain)

theorem shutDown_twin (wall : Nat → Time.Instant) (now : Nat) (twin : Twin decorated plain) :
    (decorated.shutDown wall now).1 = (plain.shutDown wall now).1 ∧
      Twin (decorated.shutDown wall now).2 (plain.shutDown wall now).2 := by
  unfold shutDown
  rw [← twin.isClosed]
  split
  · exact ⟨rfl, twin⟩
  · have stopped := stopAll_twin ⟨now, wall now⟩ twin
    exact drain_twin wall now { stopped with isClosed := rfl }

end Board

/-! ### Steps -/

/-- A step changes stores only through the layers above them. -/
def BoardStep.Through : BoardStep → Prop
  | operation asked => asked.Through
  | settle | advance _ | drain | shutDown => True

/-- A step starts or stops what happens in the background. -/
def BoardStep.Control : BoardStep → Prop
  | operation asked => asked.Control
  | settle | advance _ | drain | shutDown => False

namespace Board

/-- The notices that a step submits, those about features and those about properties. -/
def submits (wall : Nat → Time.Instant) (now : Nat) (board : Board) :
    BoardStep → List FeatureNotice × List PropertyNotice
  | .operation asked =>
    let changed := ((handle asked).perform ⟨now, wall now⟩ board).2
    (changed.features.layered.submitted, changed.properties.layered.submitted)
  | .settle | .advance _ | .drain | .shutDown => ([], [])

/-- Two boards take a step alike: they answer the same, unless the step starts or stops what happens in
the background, they submit the same notices, and then it is the same time, the stores keep the same, and
the listeners were told the same. -/
structure SameStep (wall : Nat → Time.Instant) (now : Nat) (left right : Board) (next : BoardStep) :
    Prop where
  outcome : ¬next.Control → (left.step wall now next).2.1 = (right.step wall now next).2.1
  notices : left.submits wall now next = right.submits wall now next
  clock : (left.step wall now next).1 = (right.step wall now next).1
  features : (left.step wall now next).2.2.features.layered.backend.store =
    (right.step wall now next).2.2.features.layered.backend.store
  properties : (left.step wall now next).2.2.properties.layered.backend.store =
    (right.step wall now next).2.2.properties.layered.backend.store
  desk : (left.step wall now next).2.2.desk = (right.step wall now next).2.2.desk

variable {decorated plain : Board} {wall : Nat → Time.Instant} {now : Nat}

/-- What twins show of a step from which they come out as twins. -/
theorem Twin.sameStep {next : BoardStep}
    (after : Twin (decorated.step wall now next).2.2 (plain.step wall now next).2.2)
    (outcome : ¬next.Control → (decorated.step wall now next).2.1 = (plain.step wall now next).2.1)
    (notices : decorated.submits wall now next = plain.submits wall now next)
    (clock : (decorated.step wall now next).1 = (plain.step wall now next).1) :
    SameStep wall now decorated plain next where
  outcome := outcome
  notices := notices
  clock := clock
  features := after.features.layered.2.store
  properties := after.properties.layered.2.store
  desk := after.desk

/-- **Twins take every step alike** that stays above the stores, and stay twins. -/
theorem step_twin (twin : Twin decorated plain) {next : BoardStep} (through : next.Through) :
    SameStep wall now decorated plain next ∧
      Twin (decorated.step wall now next).2.2 (plain.step wall now next).2.2 := by
  cases next with
  | operation asked =>
    have performed : Twin ((handle asked).perform ⟨now, wall now⟩ decorated).2
          ((handle asked).perform ⟨now, wall now⟩ plain).2 ∧
        (¬asked.Control → ((handle asked).perform ⟨now, wall now⟩ decorated).1 =
          ((handle asked).perform ⟨now, wall now⟩ plain).1) := by
      by_cases control : asked.Control
      · exact ⟨twin.idle (idle_control control _ _) (idle_control control _ _),
          fun answered => absurd control answered⟩
      · obtain ⟨outcome, after⟩ := handle_agree through control ⟨now, wall now⟩ _ _ twin
        exact ⟨after, fun _ => outcome⟩
    have delivered := performed.1.deliver
    refine ⟨Twin.sameStep delivered performed.2 ?_ rfl, delivered⟩
    unfold submits
    dsimp only
    rw [performed.1.features.submitted, performed.1.properties.submitted]
  | settle =>
    have settled : Twin (decorated.step wall now .settle).2.2 (plain.step wall now .settle).2.2 :=
      twin.run ⟨now, wall now⟩
    exact ⟨settled.sameStep (fun _ => rfl) rfl rfl, settled⟩
  | advance millis =>
    have later : Twin (decorated.step wall now (.advance millis)).2.2
      (plain.step wall now (.advance millis)).2.2 := twin.pass wall now (now + millis)
    exact ⟨later.sameStep (fun _ => rfl) rfl rfl, later⟩
  | drain =>
    obtain ⟨clock, drained⟩ : (decorated.step wall now .drain).1 = (plain.step wall now .drain).1 ∧
      Twin (decorated.step wall now .drain).2.2 (plain.step wall now .drain).2.2 :=
        drain_twin wall now twin
    exact ⟨drained.sameStep (fun _ => rfl) rfl clock, drained⟩
  | shutDown =>
    obtain ⟨clock, closed⟩ : (decorated.step wall now .shutDown).1 = (plain.step wall now .shutDown).1 ∧
      Twin (decorated.step wall now .shutDown).2.2 (plain.step wall now .shutDown).2.2 :=
        shutDown_twin wall now twin
    exact ⟨closed.sameStep (fun _ => rfl) rfl clock, closed⟩

/-- The time and the board after steps, one after the other. -/
def runSteps (wall : Nat → Time.Instant) : Nat × Board → List BoardStep → Nat × Board
  | state, [] => state
  | (now, board), next :: rest =>
    runSteps wall ((board.step wall now next).1, (board.step wall now next).2.2) rest

/-- **Twins stay twins in a run.** -/
theorem runSteps_twin (twin : Twin decorated plain) {steps : List BoardStep}
    (through : ∀ next ∈ steps, next.Through) :
    (runSteps wall (now, decorated) steps).1 = (runSteps wall (now, plain) steps).1 ∧
      Twin (runSteps wall (now, decorated) steps).2 (runSteps wall (now, plain) steps).2 := by
  induction steps generalizing now decorated plain with
  | nil => exact ⟨rfl, twin⟩
  | cons next rest ih =>
    obtain ⟨same, after⟩ : SameStep wall now decorated plain next ∧ _ :=
      step_twin twin (through next List.mem_cons_self)
    unfold runSteps
    rw [← same.clock]
    exact ih after fun later listed => through later (List.mem_cons_of_mem _ listed)

end Board

end Switchboard

/-
**What lasts on a board.**

* `Board.Stable` — a property of boards that is kept when everything due happens and when the desk closes: time passing
  and drains keep it (`Board.Stable.pass`, `Board.Stable.drain`).
* `Board.Lasting` — a stable property that is also kept when a board stops what happens in the background for good: only
  an operation can end it (`Board.Lasting.step`).
* `Board.runSteps_keeps` — a run keeps what every one of its steps keeps.
-/

import Switchboard.Proofs.Board.Steps

namespace Switchboard

namespace Board

variable {property : Board → Prop} {board : Board} {wall : Nat → Time.Instant} {now : Nat}

/-- Neither what happens on its own nor the closing of the desk ends a property of boards. -/
structure Stable (property : Board → Prop) : Prop where
  run : ∀ (moment : Moment) {board : Board}, property board → property (board.run moment)
  close : ∀ {board : Board}, property board → property { board with desk := board.desk.close }

theorem Stable.advance (stable : Stable property) (holds : property board) (target : Nat) :
    property (Timed.advance wall now target board) :=
  Timed.advance_keeps property (fun moment _ holds => stable.run moment holds) holds

theorem Stable.pass (stable : Stable property) (holds : property board) (target : Nat) :
    property (board.pass wall now target) :=
  stable.advance (stable.run ⟨now, wall now⟩ holds) target

theorem Stable.drain (stable : Stable property) (holds : property board) :
    property (board.drain wall now).2 :=
  stable.pass (stable.close holds) _

/-- A stop of what happens in the background does not end a stable property either. -/
structure Lasting (property : Board → Prop) : Prop extends Stable property where
  stop : ∀ (moment : Moment) {board : Board}, property board →
    property { board.stopAll moment with isClosed := true }

theorem Lasting.shutDown (lasting : Lasting property) (holds : property board) :
    property (board.shutDown wall now).2 := by
  unfold Board.shutDown
  split
  · exact holds
  · exact lasting.drain (lasting.stop ⟨now, wall now⟩ holds)

/-- **Only an operation can end what lasts.** -/
theorem Lasting.step (lasting : Lasting property) (holds : property board) {next : BoardStep}
    (operated : ∀ asked, next = .operation asked → property (board.perform ⟨now, wall now⟩ asked).2) :
    property (board.step wall now next).2.2 := by
  cases next with
  | operation asked => exact operated asked rfl
  | settle => exact lasting.run ⟨now, wall now⟩ holds
  | advance millis => exact lasting.pass holds _
  | drain => exact lasting.drain holds
  | shutDown => exact lasting.shutDown holds

/-- **A run keeps what every one of its steps keeps.** -/
theorem runSteps_keeps (property : Board → Prop) {steps : List BoardStep}
    (keeps : ∀ now board, ∀ next ∈ steps, property board → property (board.step wall now next).2.2)
    (holds : property board) : property (runSteps wall (now, board) steps).2 := by
  induction steps generalizing now board with
  | nil => exact holds
  | cons next rest ih =>
    exact ih (fun now board later listed => keeps now board later (List.mem_cons_of_mem _ listed))
      (keeps now board next List.mem_cons_self holds)

end Board

end Switchboard

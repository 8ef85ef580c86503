/-
**Checks of features on a board.**

* `Check` — a check of a feature, under the defaults alone or under a context.
* `Board.check` — whether the feature is on.
* `Board.performCheck` — the same, and the notices that the check submits go to the desk.
-/

import Switchboard.Board.Operation

namespace Switchboard

/-- A check of a feature: under the defaults alone, within a context, or within a context by a strategy that is given
for it. -/
inductive Check where
  | byDefault (id : String)
  | within (id : String) (context : Context)
  | overriding (id : String) (context : Context) (strategy : Strategy)

namespace Board

/-- Whether a feature is on. The context of a check is laid over the defaults; a check without one takes the defaults as
they are. -/
def check : Check → Act Board Bool
  | .byDefault id => do
    let board ← get
    onFeatureRepository fun features => board.evaluator.check features id board.defaults
  | .within id context => do
    let board ← get
    onFeatureRepository fun features =>
      board.evaluator.check features id (board.defaults.merged context)
  | .overriding id context strategy => do
    let board ← get
    onFeatureRepository fun features => do
      let decision ← board.evaluator.evaluate features id (board.defaults.merged context) (some strategy)
      pure decision.enabled

/-- The outcome of a check, and the board when its notices have gone to the desk. -/
def performCheck (moment : Moment) (board : Board) (asked : Check) : Except Fault Bool × Board :=
  let (outcome, changed) := (check asked).perform moment board
  (outcome, changed.deliver)

end Board

end Switchboard

/-
**The switchboard.**

A board has a collection of features and one of properties, which share a desk for their notices, and
an evaluator that checks features under a context of defaults.

* `Operation`, `Board.handle` — what can be asked of a board.
* `Board.perform` — an operation; the notices that it submits go to the desk and wait there.
* `Board.run`, `Board.pass` — everything due happens, and time passes.
* `BoardStep`, `Board.step` — operations, everything due happening, and time passing.
-/

import Switchboard.Board.Collection
import Switchboard.Evaluation.Evaluator
import Switchboard.Evaluation.Secured

namespace Switchboard

/-- Features and properties, the desk for their notices, and how features are checked. -/
structure Board where
  features : Collection Feature FeatureNotice
  properties : Collection Property PropertyNotice
  desk : Desk
  evaluator : Evaluator
  defaults : Context := .empty
  isClosed : Bool := false

/-- What can be asked of a board. -/
inductive Operation where
  | features (call : CollectionCall FeatureCall)
  | properties (call : CollectionCall PropertyCall)
  | evaluate (id : String) (context : Context) (override : Option Strategy)
  | checkAll (context : Context)
  | secured (principal : Principal) (call : SecuredCall)
  | prepare
  | setDefaults (context : Context)
  | refreshCaches
  | resetUsage

/-- The type of the reply to an operation. -/
abbrev Operation.Reply : Operation → Type
  | features call => call.Reply FeatureCall.Reply
  | properties call => call.Reply PropertyCall.Reply
  | evaluate _ _ _ => Decision
  | checkAll _ => Table Bool
  | secured _ _ | prepare | setDefaults _ | refreshCaches | resetUsage => Unit

namespace Board

variable {α : Type}

/-! ### Operations -/

/-- An action on the collection of features. -/
def onFeatures (action : Act (Collection Feature FeatureNotice) α) : Act Board α :=
  Act.onPart Board.features (fun features board => { board with features }) action

/-- An action on the collection of properties. -/
def onProperties (action : Act (Collection Property PropertyNotice) α) : Act Board α :=
  Act.onPart Board.properties (fun properties board => { board with properties }) action

/-- What can be asked of the features. -/
def featureCalls :
    Handler (CollectionCall.Reply FeatureCall.Reply) (Collection Feature FeatureNotice) :=
  Collection.handle Layered.features (Repository.features Backend.handle)

/-- What can be asked of the properties. -/
def propertyCalls :
    Handler (CollectionCall.Reply PropertyCall.Reply) (Collection Property PropertyNotice) :=
  Collection.handle Layered.properties (Repository.properties Backend.handle)

/-- An action on the repository of features, made at the top. -/
def onFeatureRepository
    (action : FeatureHandler (Layered Feature FeatureNotice) →
      Act (Layered Feature FeatureNotice) α) : Act Board α := do
  let layers := (← get).features.layers
  onFeatures (Collection.onLayered (action (Layered.features layers)))

/-- Refreshes the features and then the properties, each only if it has a refresher. -/
def refreshCaches : Act Board Unit := do
  if (← get).features.refresher.isSome then
    let _ ← onFeatures Collection.refresh
  if (← get).properties.refresher.isSome then
    let _ ← onProperties Collection.refresh

/-- What can be asked of a board. A context is laid over the defaults before features are checked. -/
def handle : Handler Operation.Reply Board
  | .features call => onFeatures (featureCalls call)
  | .properties call => onProperties (propertyCalls call)
  | .evaluate id context override => do
    let board ← get
    onFeatureRepository fun features =>
      board.evaluator.evaluate features id (board.defaults.merged context) override
  | .checkAll context => do
    let board ← get
    onFeatureRepository fun features =>
      board.evaluator.checkAll features (board.defaults.merged context)
  | .secured principal call => onFeatureRepository fun features =>
      Secured.handle features principal call
  | .prepare => do
    onFeatures (featureCalls (.call (.store .prepare)))
    onProperties (propertyCalls (.call (.store .prepare)))
  | .setDefaults context => modify fun board => { board with defaults := context }
  | .refreshCaches => refreshCaches
  | .resetUsage => modify fun board =>
      { board with desk := { board.desk with
          journal := { board.desk.journal with usage := Usage.reset } } }

/-! ### Time -/

/-- The submitted notices, those about features first, and the board without them. -/
def takeNotices (board : Board) : List Notice × List Notice × Board :=
  (board.features.layered.submitted.map Notice.feature,
    board.properties.layered.submitted.map Notice.property,
    { board with
      features := { board.features with layered := { board.features.layered with submitted := [] } }
      properties :=
        { board.properties with layered := { board.properties.layered with submitted := [] } } })

/-- Submitted notices go to the desk. -/
def deliver (board : Board) : Board :=
  let (ofFeatures, ofProperties, rest) := board.takeNotices
  let desk := ofFeatures.foldl (Desk.announce rest.features.listeners) rest.desk
  { rest with desk := ofProperties.foldl (Desk.announce rest.properties.listeners) desk }

/-- Everything that is due. -/
def run (moment : Moment) (board : Board) : Board :=
  { board with
    features := board.features.run moment
    properties := board.properties.run moment
    desk := board.desk.run moment }

/-- The time at which the next thing is due. -/
def due? (board : Board) : Option Nat :=
  [board.features.due?, board.properties.due?, board.desk.due?].reduceOption.min?

instance : Timed Board where
  due? := due?
  run := run

/-- The outcome of an operation, and the board when its notices have gone to the desk. No delivery has begun by then. -/
def perform (moment : Moment) (board : Board) (operation : Operation) :
    Except Fault operation.Reply × Board :=
  let (outcome, changed) := (handle operation).perform moment board
  (outcome, changed.deliver)

/-- Everything due happens, and then time passes. -/
def pass (wall : Nat → Time.Instant) (now target : Nat) (board : Board) : Board :=
  Timed.advance wall now target (board.run ⟨now, wall now⟩)

/-- The desk takes no job any more, and time passes until it has none left. -/
def drain (wall : Nat → Time.Instant) (now : Nat) (board : Board) : Nat × Board :=
  let finish := board.desk.drainTime now
  (finish, { board with desk := board.desk.close }.pass wall now finish)

/-- Starts what happens in the background. -/
def startAll (moment : Moment) (board : Board) : Board :=
  ((onFeatures Collection.startAll *> onProperties Collection.startAll).perform moment board).2

/-- Stops what happens in the background. -/
def stopAll (moment : Moment) (board : Board) : Board :=
  ((onFeatures Collection.stopAll *> onProperties Collection.stopAll).perform moment board).2

/-- Stops what happens in the background and drains the desk; done once. -/
def shutDown (wall : Nat → Time.Instant) (now : Nat) (board : Board) : Nat × Board :=
  if board.isClosed then (now, board)
  else { board.stopAll ⟨now, wall now⟩ with isClosed := true }.drain wall now

end Board

/-- An operation, everything due happening, time passing, or the end of deliveries or of the whole board. -/
inductive BoardStep where
  | operation (asked : Operation)
  | settle
  | advance (millis : Nat)
  | drain
  | shutDown

/-- The type of the reply to a step. -/
abbrev BoardStep.Reply : BoardStep → Type
  | operation asked => asked.Reply
  | settle | advance _ | drain | shutDown => Unit

namespace Board

/-- The clock, the outcome and the board after a step. -/
def step (wall : Nat → Time.Instant) (now : Nat) (board : Board) :
    (step : BoardStep) → Nat × Except Fault step.Reply × Board
  | .operation asked => (now, board.perform ⟨now, wall now⟩ asked)
  | .settle => (now, .ok (), board.run ⟨now, wall now⟩)
  | .advance millis => (now + millis, .ok (), board.pass wall now (now + millis))
  | .drain =>
    let (finish, drained) := board.drain wall now
    (finish, .ok (), drained)
  | .shutDown =>
    let (finish, closed) := board.shutDown wall now
    (finish, .ok (), closed)

/-! ### What can be seen -/

/-- A collection of the board is being refreshed. -/
def isRefreshing (board : Board) : Bool :=
  board.features.isRefreshing || board.properties.isRefreshing

/-- The text that shows a board. -/
def describe (board : Board) : String :=
  "Latch \x7b evaluator: " ++ board.evaluator.describe ++ ", dispatch: " ++
    board.desk.dispatcher.stats.describe ++ ", closed: " ++ truthWord board.isClosed ++ " \x7d"

end Board

end Switchboard

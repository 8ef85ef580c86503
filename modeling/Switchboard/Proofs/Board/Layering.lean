/-
**Layers of context on a board.**

* `Board.Raised` — a board is another one with a context laid over its defaults.
* `Board.resolved_raised` — it makes no difference to a call whether a context is laid over the defaults or under the
  context of the call.
* `Operation.above`, `Operation.under` — a context laid over the defaults that are set, or under the contexts of calls.
  `Board.step_raised`, `Board.runSteps_raised` — so a raised board stays raised in every step and every run.
* `Board.SameAnswer`, `Board.LayerMoves` — what two boards show of a layer that moves.
* `Board.contexts_layer` — contexts compose in layers, and so do the defaults of a board and the contexts of calls.
-/

import Switchboard.Board.Checks
import Switchboard.Proofs.Board.Steps
import Switchboard.Proofs.Context.Layering
import Switchboard.Proofs.Evaluation.Chain
import Switchboard.Strategy.Catalogue

namespace Switchboard

open Act

/-! ### Layers of calls -/

/-- The check with a context laid under its own; one under the defaults alone becomes one within the context. -/
def Check.under (layer : Context) : Check → Check
  | byDefault id => within id layer
  | within id context => within id (layer.merged context)
  | overriding id context strategy => overriding id (layer.merged context) strategy

/-- The operation with a context laid under its own, if it lays one over the defaults. -/
def Operation.under (layer : Context) : Operation → Operation
  | evaluate id context override => evaluate id (layer.merged context) override
  | checkAll context => checkAll (layer.merged context)
  | other => other

/-- The operation with a context laid over the defaults that it sets, if it sets them. -/
def Operation.above (layer : Context) : Operation → Operation
  | setDefaults defaults => setDefaults (defaults.merged layer)
  | other => other

/-- The step with another operation, if it is one. -/
def BoardStep.mapOperation (change : Operation → Operation) : BoardStep → BoardStep
  | operation asked => operation (change asked)
  | other => other

namespace Board

variable {α : Type} {layer : Context} {raised plain : Board} {wall : Nat → Time.Instant} {now target : Nat}

/-- A board is another one with a context laid over its defaults. -/
def Raised (layer : Context) (raised plain : Board) : Prop :=
  raised = { plain with defaults := plain.defaults.merged layer }

/-! ### Operations -/

theorem onFeatures_raised (action : Act (Collection Feature FeatureNotice) α) :
    Agree (Raised layer) (onFeatures action) (onFeatures action) := by
  refine (Agree.refl action).onPart ?_ ?_
  · rintro _ _ rfl
    rfl
  · rintro _ _ _ _ rfl rfl
    rfl

theorem onProperties_raised (action : Act (Collection Property PropertyNotice) α) :
    Agree (Raised layer) (onProperties action) (onProperties action) := by
  refine (Agree.refl action).onPart ?_ ?_
  · rintro _ _ rfl
    rfl
  · rintro _ _ _ _ rfl rfl
    rfl

theorem onFeatureRepository_raised (action : FeatureHandler (Layered Feature FeatureNotice) →
      Act (Layered Feature FeatureNotice) α) :
    Agree (Raised layer) (onFeatureRepository action) (onFeatureRepository action) := by
  refine Agree.get_bind ?_
  rintro _ plain rfl
  exact onFeatures_raised _

/-- **A layer may move** from the defaults of a board to the context that a call lays over them, whatever the call does
with the context that comes of this. -/
theorem resolved_raised (context : Context) (action : Evaluator → Context →
      FeatureHandler (Layered Feature FeatureNotice) → Act (Layered Feature FeatureNotice) α) :
    Agree (Raised layer)
      (do
        let board ← get
        onFeatureRepository (action board.evaluator (board.defaults.merged context)))
      (do
        let board ← get
        onFeatureRepository (action board.evaluator (board.defaults.merged (layer.merged context)))) := by
  refine Agree.get_bind ?_
  rintro _ plain rfl
  dsimp only
  rw [Context.merged_assoc]
  exact onFeatureRepository_raised _

theorem evaluate_raised (id : String) (context : Context) (override : Option Strategy) :
    Agree (Raised layer) (handle (.evaluate id context override))
      (handle (.evaluate id (layer.merged context) override)) :=
  resolved_raised context fun evaluator resolved features => evaluator.evaluate features id resolved override

theorem checkAll_raised (context : Context) :
    Agree (Raised layer) (handle (.checkAll context)) (handle (.checkAll (layer.merged context))) :=
  resolved_raised context fun evaluator resolved features => evaluator.checkAll features resolved

theorem check_raised (asked : Check) : Agree (Raised layer) (check asked) (check (asked.under layer)) := by
  cases asked with
  | byDefault id =>
    refine Agree.get_bind ?_
    rintro _ plain rfl
    exact onFeatureRepository_raised _
  | within id context =>
    exact resolved_raised context fun evaluator resolved features => evaluator.check features id resolved
  | overriding id context strategy =>
    exact resolved_raised context fun evaluator resolved features => do
      let decision ← evaluator.evaluate features id resolved (some strategy)
      pure decision.enabled

theorem refreshCaches_raised : Agree (Raised layer) refreshCaches refreshCaches := by
  have properties : Agree (Raised layer) refreshProperties refreshProperties := by
    refine Agree.get_bind ?_
    rintro _ plain rfl
    exact Agree.ite ((onProperties_raised _).bind fun _ => Agree.pure _) (Agree.pure _)
  refine Agree.get_bind ?_
  rintro _ plain rfl
  exact Agree.ite ((onFeatures_raised _).bind fun _ => properties) properties

/-- **A raised board stays raised under every operation**, if the layer is laid over the defaults that are set there and
under the contexts of calls on the other board. -/
theorem handle_raised (operation : Operation) (moment : Moment) (start : Raised layer raised plain) :
    Raised layer ((handle (operation.above layer)).perform moment raised).2
      ((handle (operation.under layer)).perform moment plain).2 := by
  cases operation with
  | features call => exact (onFeatures_raised _ moment _ _ start).2
  | properties call => exact (onProperties_raised _ moment _ _ start).2
  | evaluate id context override => exact (evaluate_raised id context override moment _ _ start).2
  | checkAll context => exact (checkAll_raised context moment _ _ start).2
  | secured principal call => exact (onFeatureRepository_raised _ moment _ _ start).2
  | prepare => exact ((onFeatures_raised _).bind (fun _ => onProperties_raised _) moment _ _ start).2
  | setDefaults defaults =>
    cases start
    rfl
  | refreshCaches => exact (refreshCaches_raised moment _ _ start).2
  | resetUsage =>
    cases start
    rfl

/-! ### Time -/

theorem Raised.deliver (start : Raised layer raised plain) : Raised layer raised.deliver plain.deliver := by
  cases start
  rfl

theorem Raised.run (start : Raised layer raised plain) (moment : Moment) :
    Raised layer (raised.run moment) (plain.run moment) := by
  cases start
  rfl

theorem Raised.advance (start : Raised layer raised plain) :
    Raised layer (Timed.advance wall now target raised) (Timed.advance wall now target plain) := by
  refine Timed.advance_alike (Raised layer) ?_ ?_ start
  · rintro _ plain rfl
    rfl
  · rintro moment _ plain rfl
    rfl

theorem Raised.pass (start : Raised layer raised plain) (wall : Nat → Time.Instant) (now target : Nat) :
    Raised layer (raised.pass wall now target) (plain.pass wall now target) :=
  (start.run ⟨now, wall now⟩).advance

theorem Raised.stopAll (start : Raised layer raised plain) (moment : Moment) :
    Raised layer (raised.stopAll moment) (plain.stopAll moment) :=
  ((onFeatures_raised _).bind (fun _ => onProperties_raised _) moment _ _ start).2

theorem Raised.drain (start : Raised layer raised plain) (wall : Nat → Time.Instant) (now : Nat) :
    (raised.drain wall now).1 = (plain.drain wall now).1 ∧
      Raised layer (raised.drain wall now).2 (plain.drain wall now).2 := by
  have finish : raised.desk.drainTime now = plain.desk.drainTime now := by rw [start]
  have closed : Raised layer { raised with desk := raised.desk.close } { plain with desk := plain.desk.close } := by
    rw [start]
    rfl
  unfold Board.drain
  dsimp only
  rw [finish]
  exact ⟨rfl, closed.pass wall now _⟩

theorem Raised.shutDown (start : Raised layer raised plain) (wall : Nat → Time.Instant) (now : Nat) :
    (raised.shutDown wall now).1 = (plain.shutDown wall now).1 ∧
      Raised layer (raised.shutDown wall now).2 (plain.shutDown wall now).2 := by
  have same : raised.isClosed = plain.isClosed := by rw [start]
  have stopped := start.stopAll ⟨now, wall now⟩
  have closed : Raised layer { raised.stopAll ⟨now, wall now⟩ with isClosed := true }
      { plain.stopAll ⟨now, wall now⟩ with isClosed := true } := by rw [stopped]; rfl
  unfold Board.shutDown
  rw [same]
  split
  · exact ⟨rfl, start⟩
  · exact closed.drain wall now

/-- **A raised board stays raised in every step.** -/
theorem step_raised (start : Raised layer raised plain) (next : BoardStep) :
    (raised.step wall now (next.mapOperation (.above layer))).1 =
        (plain.step wall now (next.mapOperation (.under layer))).1 ∧
      Raised layer (raised.step wall now (next.mapOperation (.above layer))).2.2
        (plain.step wall now (next.mapOperation (.under layer))).2.2 := by
  cases next with
  | operation asked => exact ⟨rfl, (handle_raised asked ⟨now, wall now⟩ start).deliver⟩
  | settle => exact ⟨rfl, start.run ⟨now, wall now⟩⟩
  | advance millis => exact ⟨rfl, start.pass wall now (now + millis)⟩
  | drain => exact start.drain wall now
  | shutDown => exact start.shutDown wall now

/-- **A raised board stays raised in every run.** -/
theorem runSteps_raised (start : Raised layer raised plain) (steps : List BoardStep) :
    (runSteps wall (now, raised) (steps.map (.mapOperation (.above layer)))).1 =
        (runSteps wall (now, plain) (steps.map (.mapOperation (.under layer)))).1 ∧
      Raised layer (runSteps wall (now, raised) (steps.map (.mapOperation (.above layer)))).2
        (runSteps wall (now, plain) (steps.map (.mapOperation (.under layer)))).2 := by
  induction steps generalizing now raised plain with
  | nil => exact ⟨rfl, start⟩
  | cons next rest ih =>
    obtain ⟨clock, after⟩ : (raised.step wall now (next.mapOperation (.above layer))).1 =
        (plain.step wall now (next.mapOperation (.under layer))).1 ∧ _ := step_raised start next
    rw [List.map_cons, List.map_cons]
    unfold runSteps
    rw [← clock]
    exact ih after

/-! ### Answers -/

/-- Of two boards, one with a context laid over the defaults of the other, each is asked something, and they answer
alike: the outcome is the same, the notices are the same, and the boards still differ in that context alone, also when
all that was set off has happened. -/
structure SameAnswer (layer : Context) (moment : Moment) (raised plain : Board) (left right : Act Board α) : Prop where
  outcome : (left.perform moment raised).1 = (right.perform moment plain).1
  notices : (left.perform moment raised).2.features.layered.submitted =
    (right.perform moment plain).2.features.layered.submitted
  after : Raised layer (left.perform moment raised).2 (right.perform moment plain).2
  settled : Raised layer ((left.perform moment raised).2.deliver.run moment)
    ((right.perform moment plain).2.deliver.run moment)

theorem SameAnswer.of_agree {moment : Moment} {left right : Act Board α} (agree : Agree (Raised layer) left right)
    (start : Raised layer raised plain) : SameAnswer layer moment raised plain left right := by
  obtain ⟨outcome, after⟩ := agree moment raised plain start
  exact ⟨outcome, by rw [after], after, after.deliver.run moment⟩

/-- **The use that an evaluation submits** is one under the defaults with the context of the evaluation laid over them. -/
theorem uses_evaluate (moment : Moment) (board : Board) (id : String) (context : Context)
    (override : Option Strategy) :
    let evaluated := (handle (.evaluate id context override)).perform moment board
    FeatureNotice.uses evaluated.2.features.layered.submitted =
      FeatureNotice.uses board.features.layered.submitted ++
        if evaluated.1.toOption.any Decision.enabled && board.evaluator.notifies then
          [(id, board.defaults.merged context)]
        else [] :=
  Evaluator.uses_of_evaluated board.evaluator (board.defaults.merged context) override

/-- **A check under the defaults alone is one within the empty context.** -/
theorem check_byDefault (id : String) : check (.byDefault id) = check (.within id .empty) := by
  unfold check
  simp only [Context.merged_empty]

/-- What two boards show of a context that is laid over the defaults of one of them. -/
structure LayerMoves (layer : Context) (raised plain : Board) : Prop where
  /-- An evaluation has the same decision or fault, and submits the same notices, if the context is laid under its own on
  the other board. -/
  evaluate : ∀ moment id context override, SameAnswer layer moment raised plain
    (handle (.evaluate id context override)) (handle (.evaluate id (layer.merged context) override))
  /-- The use that it submits, if the feature is on, is one under the defaults with both contexts laid over them. -/
  used : ∀ moment id context override,
    let evaluated := (handle (.evaluate id context override)).perform moment raised
    FeatureNotice.uses evaluated.2.features.layered.submitted =
      FeatureNotice.uses plain.features.layered.submitted ++
        if evaluated.1.toOption.any Decision.enabled && plain.evaluator.notifies then
          [(id, plain.defaults.merged (layer.merged context))]
        else []
  /-- So are checks answered. -/
  check : ∀ moment asked, SameAnswer layer moment raised plain (check asked) (check (asked.under layer))
  /-- So are checks of all features. -/
  checkAll : ∀ moment context, SameAnswer layer moment raised plain (handle (.checkAll context))
    (handle (.checkAll (layer.merged context)))
  /-- After any steps, nothing but the defaults differs, neither on the boards nor at their desks. -/
  run : ∀ wall now (steps : List BoardStep),
    let above := runSteps wall (now, raised) (steps.map (.mapOperation (.above layer)))
    let under := runSteps wall (now, plain) (steps.map (.mapOperation (.under layer)))
    above.1 = under.1 ∧ Raised layer above.2 under.2

/-- **A layer may move** from the defaults of a board to the contexts of calls. -/
theorem Raised.layerMoves (start : Raised layer raised plain) : LayerMoves layer raised plain where
  evaluate moment id context override := .of_agree (evaluate_raised id context override) start
  used moment id context override := by
    cases start
    rw [← Context.merged_assoc]
    exact uses_evaluate moment _ id context override
  check moment asked := .of_agree (check_raised asked) start
  checkAll moment context := .of_agree (checkAll_raised context) start
  run wall now steps := runSteps_raised start steps

/-- **Contexts compose in layers.** Laying contexts over each other is associative and idempotent, and the empty context
is neutral. Every name is read, with its type, from the upper context if it has the name and from the lower one
otherwise; the principal is the upper one's if it has one and the lower one's otherwise, each with its own groups. So it
makes no difference, on any board and whatever strategies do, whether a context is laid over the defaults or under the
context of a call; and a check under the defaults alone is one within the empty context. -/
theorem contexts_layer :
    (∀ lowest middle upper : Context,
      (lowest.merged middle).merged upper = lowest.merged (middle.merged upper)) ∧
    (∀ context : Context, Context.empty.merged context = context ∧ context.merged .empty = context ∧
      context.merged context = context) ∧
    (∀ context overrides : Context, Context.LaidOver context overrides (context.merged overrides)) ∧
    (∀ (board : Board) (defaults layer : Context),
      LayerMoves layer { board with defaults := defaults.merged layer } { board with defaults }) ∧
    ∀ id, check (.byDefault id) = check (.within id .empty) :=
  ⟨Context.merged_assoc,
    fun context => ⟨Context.empty_merged context, Context.merged_empty context, Context.merged_self context⟩,
    Context.laidOver_merged, fun _ _ _ => Raised.layerMoves rfl, check_byDefault⟩

/-- A lamp is for the staff, and is on at night. Ann of the staff is the principal by default, and the text under
`night` is no truth value. With a truth value laid over the defaults the lamp is on, as it is if the check itself brings
that value; for Bob, who has no groups, it is off, because the groups of Ann do not become his. -/
theorem contexts_layer_lamp :
    let lamp : Feature :=
      { Feature.new "lamp" .epoch with
        enabled := true
        acl := ({} : AccessList).apply (.grantGroups .use ["staff"])
        strategy := some ⟨"context_key", (∅ : Table String).insert "key" "night"⟩ }
    let board : Board :=
      { features :=
          { layers := Layered.allLayers, layered := Layered.new (Store.empty.insert lamp) 10 4 (fun _ => 0) }
        properties := { layers := Layered.allLayers, layered := Layered.new {} 10 4 (fun _ => 0) }
        desk := { dispatcher := Dispatcher.new 1 8 100 }
        evaluator := { strategies := Catalogue.registry } }
    let ann : Context := { principal := some ⟨"ann", Names.of ["staff"]⟩ }
    let bob : Context := { principal := some ⟨"bob", ∅⟩ }
    let dim := ann.set "night" (.text "true")
    let night : Context := Context.empty.set "night" (.bool true)
    let raised := { board with defaults := dim.merged night }
    let plain := { board with defaults := dim }
    let answer := fun (board : Board) asked => ((check asked).perform ⟨1, .epoch⟩ board).1.toOption
    LayerMoves night raised plain ∧ answer plain (.byDefault "lamp") = some false ∧
      answer raised (.byDefault "lamp") = some true ∧ answer plain (.within "lamp" night) = some true ∧
      answer raised (.within "lamp" bob) = some false := by
  intro lamp board ann bob dim night raised plain answer
  have moves : LayerMoves night raised plain := contexts_layer.2.2.2.1 board dim night
  have lit : answer raised (.byDefault "lamp") = some true := by decide +kernel
  refine ⟨moves, ?_, lit, ?_, ?_⟩
  · decide +kernel
  · have same := (moves.check ⟨1, .epoch⟩ (.byDefault "lamp")).outcome
    exact (congrArg Except.toOption same).symm.trans lit
  · decide +kernel

end Board

end Switchboard

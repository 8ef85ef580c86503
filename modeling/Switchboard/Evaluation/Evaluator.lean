/-
**The evaluation of features.**

A feature is on for a caller if it is enabled, the caller may use it, and the strategy that decides —
one given for the call, else the one it is bound to — answers that it is.

* `Evaluator.decide` — the decision for a feature at hand.
* `Evaluator.evaluate` — the decision for an identifier: the feature is read first, created disabled if
  it is missing and the evaluator creates missing features, and its use is reported if it is on.
* `Evaluator.check` — whether it is on.
* `Evaluator.checkAll` — the answers for all features that can be decided; nothing is reported.
-/

import Switchboard.Evaluation.Decision
import Switchboard.Repository.Notifying
import Switchboard.Strategy.Registry

namespace Switchboard

/-- How features are evaluated. -/
structure Evaluator where
  strategies : StrategyRegistry
  autoCreate : Bool := false
  notifies : Bool := true

namespace Evaluator

variable {σ : Type}

/-- The decision of a strategy. -/
def consult (features : FeatureHandler σ) (feature : Feature) (context : Context)
    (reason : DecisionReason) (strategy : Strategy) : Act σ Decision := do
  let enabled ← (strategy.plan feature.id context).run features
  pure ⟨feature.id, enabled, reason⟩

/-- The decision for a feature at hand. -/
def decide (evaluator : Evaluator) (features : FeatureHandler σ) (feature : Feature)
    (context : Context) (override : Option Strategy) : Act σ Decision :=
  if !feature.enabled then pure (.off feature.id .disabled)
  else if !feature.acl.grants context.principal .use then pure (.off feature.id .accessDenied)
  else match override with
    | some strategy => consult features feature context .overrideStrategy strategy
    | none =>
      match feature.strategy with
      | some config => do
        consult features feature context .boundStrategy
          (← Act.lift (evaluator.strategies.create config))
      | none => pure ⟨feature.id, true, .enabled⟩

/-- Creates a missing feature disabled; that somebody else created it first is no fault. -/
def createMissing (features : FeatureHandler σ) (id : String) : Act σ Decision := do
  match ← (features (.store (.create (Feature.new id (← Act.now))))).attempt with
  | .ok _ | .error (.alreadyExists _ _) => pure (.off id .autoCreated)
  | .error fault => throw fault

/-- The decision for an identifier. -/
def evaluate (evaluator : Evaluator) (features : FeatureHandler (Notified FeatureNotice σ))
    (id : String) (context : Context) (override : Option Strategy) :
    Act (Notified FeatureNotice σ) Decision := do
  match ← (features (.store (.read id))).attempt with
  | .ok feature =>
    let decision ← evaluator.decide features feature context override
    if decision.enabled && evaluator.notifies then Notified.submit [.used id context]
    pure decision
  | .error fault =>
    if fault.isNotFound && evaluator.autoCreate then createMissing features id else throw fault

/-- Whether the feature of an identifier is on. -/
def check (evaluator : Evaluator) (features : FeatureHandler (Notified FeatureNotice σ)) (id : String)
    (context : Context) : Act (Notified FeatureNotice σ) Bool := do
  return (← evaluator.evaluate features id context none).enabled

/-- The answers for the features of a list that can be decided. -/
def answers (evaluator : Evaluator) (features : FeatureHandler σ) (context : Context) :
    List Feature → Act σ (Table Bool)
  | [] => pure ∅
  | feature :: rest => do
    let outcome ← (evaluator.decide features feature context none).attempt
    let answers ← evaluator.answers features context rest
    match outcome with
    | .ok decision => pure (answers.insert feature.id decision.enabled)
    | .error _ => pure answers

/-- The answers for all features that can be decided. -/
def checkAll (evaluator : Evaluator) (features : FeatureHandler σ) (context : Context) :
    Act σ (Table Bool) := do
  evaluator.answers features context (← features (.store .all))

/-- The text that shows an evaluator. -/
def describe (evaluator : Evaluator) : String :=
  "ToggleEvaluator \x7b strategies: " ++ evaluator.strategies.describe ++ ", auto_create: " ++
    truthWord evaluator.autoCreate ++ ", notifier: " ++ truthWord evaluator.notifies ++ " \x7d"

end Evaluator

end Switchboard

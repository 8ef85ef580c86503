/-
**Strategies and their registry.**

* `Plan` — what a strategy does to decide: a plan ends with an outcome, or asks a repository of features and goes on with
  the answer. `Plan.run` — a plan carried out on a repository; `Plan.readFeature` — the plan that reads a feature.
* `Strategy` — decides for a feature and a context; it can be written as a configuration.
* `StrategyRegistry` — constructors of strategies under the names of their types.
* `StrategyRegistry.create` — the strategy that a configuration describes; `requiredParam` — a parameter that
  a strategy cannot do without.
-/

import Switchboard.Context
import Switchboard.Repository.Call

namespace Switchboard

/-- An outcome, or a question and what to do with its answer. -/
inductive Plan (α : Type) where
  | done (outcome : Except Fault α)
  | ask (call : FeatureCall) (next : Except Fault call.Reply → Plan α)

namespace Plan

variable {σ α : Type}

/-- A plan carried out on a repository. -/
def run (features : FeatureHandler σ) : Plan α → Act σ α
  | done outcome => Act.lift outcome
  | ask call next => do run features (next (← (features call).attempt))

/-- Reads a feature and goes on with it; fails if it cannot be read. -/
def readFeature (id : String) (next : Feature → Plan α) : Plan α :=
  ask (.store (.read id)) fun
    | .ok feature => next feature
    | .error fault => done (.error fault)

end Plan

/-- Something that decides whether an enabled feature is on. -/
structure Strategy where
  typeName : String
  params : Table String := ∅
  plan : (featureId : String) → Context → Plan Bool

namespace Strategy

/-- The configuration that describes a strategy. -/
def config (strategy : Strategy) : StrategyConfig := ⟨strategy.typeName, strategy.params⟩

/-- The text that shows a strategy. -/
def describe (strategy : Strategy) : String :=
  "FlippingStrategy \x7b type_name: " ++ Text.quoted strategy.typeName ++ ", params: " ++
    Text.quotedMap strategy.params.toList ++ " \x7d"

end Strategy

/-- A parameter that a strategy cannot do without. -/
def requiredParam (strategy : String) (params : Table String) (key : String) :
    Except Fault String :=
  match params[key]? with
  | some value => .ok value
  | none => .error (.invalidStrategy strategy ("missing parameter '" ++ key ++ "'"))

/-- Makes a strategy from its parameters. -/
abbrev StrategyFactory := Table String → Except Fault Strategy

/-- Constructors of strategies under the names of their types. -/
structure StrategyRegistry where
  factories : Table StrategyFactory := ∅

namespace StrategyRegistry

/-- Adds a constructor, in place of one of the same name. -/
def register (registry : StrategyRegistry) (typeName : String) (factory : StrategyFactory) :
    StrategyRegistry :=
  ⟨registry.factories.insert typeName factory⟩

/-- A constructor of the name is registered. -/
def contains (registry : StrategyRegistry) (typeName : String) : Bool :=
  registry.factories.contains typeName

/-- The names of the types in their order. -/
def typeNames (registry : StrategyRegistry) : List String := registry.factories.keys

/-- The strategy that a configuration describes. -/
def create (registry : StrategyRegistry) (config : StrategyConfig) : Except Fault Strategy :=
  match registry.factories[config.typeName]? with
  | some factory => factory config.params
  | none => .error (.invalidStrategy config.typeName "no strategy registered under this type")

/-- The text that shows a registry. -/
def describe (registry : StrategyRegistry) : String :=
  "StrategyRegistry \x7b types: " ++ Text.quotedList registry.typeNames ++ " \x7d"

end StrategyRegistry

end Switchboard

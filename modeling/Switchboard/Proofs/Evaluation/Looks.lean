/-
**Evaluations that only look.**

* `Act.Looks` — an action leaves the state as it was, and how it ends does not depend on the moment.
* `Repository.looks_read` — a read of a store by itself is such an action; `Plan.run_looks`,
  `Evaluator.decide_looks` — so is what asks for nothing but reads.
* `Evaluator.verdict` — the answer for a feature at hand in a state.
* `Evaluator.perform_answers` — if decisions only look, the answers for a list of features are those of the
  verdicts on its members, each by itself (`Evaluator.getElem?_answered`).
* `StrategyRegistry.Asks` — the strategies of a registry ask for nothing else; those of the catalogue only read
  (`Catalogue.registry_asks`).
-/

import Mathlib.Data.List.Basic
import Switchboard.Proofs.Notices.Log
import Switchboard.Proofs.Outcome
import Switchboard.Proofs.Table
import Switchboard.Strategy.Catalogue

namespace Switchboard

namespace Act

variable {σ α β : Type}

/-- An action leaves the state as it was, and how it ends does not depend on the moment. -/
def Looks (action : Act σ α) : Prop :=
  ∀ moment later state, action.perform moment state = ((action.perform later state).1, state)

namespace Looks

theorem pure (value : α) : Looks (Pure.pure value : Act σ α) := fun _ _ _ => rfl

theorem lift (outcome : Except Fault α) : Looks (Act.lift outcome : Act σ α) := by
  intro moment later state
  rw [perform_lift, perform_lift]

theorem attempt {action : Act σ α} (looks : Looks action) : Looks action.attempt := by
  intro moment later state
  rw [perform_attempt, perform_attempt, looks moment later state]

theorem bind {action : Act σ α} {next : α → Act σ β} (looks : Looks action)
    (rest : ∀ value, Looks (next value)) : Looks (action >>= next) := by
  intro moment later state
  have still : (action.perform later state).2 = state := congrArg Prod.snd (looks later later state)
  rw [perform_bind, perform_bind, looks moment later state, still]
  cases (action.perform later state).1 with
  | ok value => exact rest value moment later state
  | error fault => rfl

/-- What follows an outcome that is known only has to look if there is one. -/
theorem lift_bind {outcome : Except Fault α} {next : α → Act σ β}
    (rest : ∀ value, outcome = .ok value → Looks (next value)) : Looks (Act.lift outcome >>= next) := by
  intro moment later state
  rw [perform_bind, perform_bind, perform_lift, perform_lift]
  cases outcome with
  | ok value => exact rest value rfl moment later state
  | error fault => rfl

theorem ite {condition : Prop} [Decidable condition] {yes no : Act σ α} (first : Looks yes)
    (second : Looks no) : Looks (if condition then yes else no) := by
  split
  · exact first
  · exact second

end Looks

end Act

open Act

/-! ### Reads of a store -/

/-- **A read of a store by itself only looks.** -/
theorem Repository.looks_read {call : FeatureCall} (read : call.IsRead) :
    Looks (Repository.features Store.handle call) := by
  intro moment later store
  cases call with
  | store call =>
    cases call with
    | has | find | all | count => rfl
    | read id | fetch id =>
      have finds : ∀ moment, (Store.handle (.fetch id)).perform moment store =
        (found id (store.find? id), store) := fun moment => perform_fetch id
      exact (finds moment).trans (congrArg (·, store) (congrArg Prod.fst (finds later)).symm)
    | _ => cases read
  | readGroup group =>
    unfold features
    rw [perform_members, perform_members]
  | hasGroup | groups => rfl
  | _ => cases read

section Reads

variable {σ α : Type} {features : FeatureHandler σ} {calls : FeatureCall → Prop}
  (looks : ∀ call, calls call → Looks (features call))

include looks

theorem Plan.run_looks {plan : Plan α} (asks : plan.Asks calls) : Looks (plan.run features) := by
  induction plan with
  | done outcome => exact .lift outcome
  | ask call next ih => exact (looks call asks.1).attempt.bind fun answer => ih answer (asks.2 answer)

theorem Evaluator.decide_looks {evaluator : Evaluator} (asks : evaluator.Asks calls) (feature : Feature)
    (context : Context) : Looks (evaluator.decide features feature context none) := by
  unfold Evaluator.decide
  refine .ite (.pure _) (.ite (.pure _) ?_)
  dsimp only
  cases feature.strategy with
  | none => exact .pure _
  | some config =>
    refine .lift_bind fun strategy created => ?_
    exact (Plan.run_looks looks (asks config strategy created feature.id context)).bind fun _ => .pure _

end Reads

/-- **Decisions over a store by itself only look** if the strategies only read. -/
theorem Evaluator.decide_looks_of_readers {evaluator : Evaluator}
    (readers : evaluator.Asks FeatureCall.IsRead) (feature : Feature) (context : Context) :
    Looks (evaluator.decide (Repository.features Store.handle) feature context none) :=
  Evaluator.decide_looks (fun _ read => Repository.looks_read read) readers feature context

/-! ### Answers -/

namespace Evaluator

variable {σ : Type} {features : FeatureHandler σ} {evaluator : Evaluator} {context : Context}

/-- The answer for a feature at hand in a state, or the fault that keeps it from being decided. -/
def verdict (evaluator : Evaluator) (features : FeatureHandler σ) (context : Context) (moment : Moment)
    (state : σ) (feature : Feature) : Except Fault Bool :=
  ((evaluator.decide features feature context none).perform moment state).1.map Decision.enabled

/-- The moment does not matter for a verdict if the decision only looks. -/
theorem verdict_eq {feature : Feature}
    (looks : Looks (evaluator.decide features feature context none)) (moment later : Moment) (state : σ) :
    evaluator.verdict features context moment state feature =
      evaluator.verdict features context later state feature := by
  unfold verdict
  rw [looks moment later state]

/-- The answers that verdicts give for the features of a list. -/
def answered (verdict : Feature → Except Fault Bool) : List Feature → Table Bool
  | [] => ∅
  | feature :: rest =>
    match verdict feature with
    | .ok enabled => (answered verdict rest).insert feature.id enabled
    | .error _ => answered verdict rest

/-- **An answer is the verdict on a feature of the list**, and every verdict on one gives an answer. -/
theorem getElem?_answered {verdict : Feature → Except Fault Bool} {listed : List Feature}
    (distinct : listed.Pairwise fun first second => first.id ≠ second.id) {id : String} {enabled : Bool} :
    (answered verdict listed)[id]? = some enabled ↔
      ∃ feature ∈ listed, feature.id = id ∧ verdict feature = .ok enabled := by
  induction distinct with
  | nil =>
    unfold answered
    rw [Std.ExtTreeMap.getElem?_empty]
    exact ⟨nofun, fun ⟨_, listed, _⟩ => absurd listed List.not_mem_nil⟩
  | @cons feature rest apart distinct ih =>
    rw [List.exists_mem_cons_iff]
    unfold answered
    cases verdict feature with
    | error fault =>
      refine ih.trans (or_iff_right ?_).symm
      rintro ⟨_, decided⟩
      cases decided
    | ok answer =>
      dsimp only
      rw [Table.getElem?_insert_eq]
      by_cases same : feature.id = id
      · have missing : ¬∃ other ∈ rest, other.id = id ∧ verdict other = .ok enabled :=
          fun ⟨other, listed, named, _⟩ => apart other listed (same.trans named.symm)
        rw [if_pos same, or_iff_left missing, and_iff_right same, Option.some.injEq, Except.ok.injEq]
      · rw [if_neg same, ih]
        exact (or_iff_right fun head => same head.1).symm

/-- **The answers for a list of features** whose decisions only look are those of their verdicts. -/
theorem perform_answers (looks : ∀ feature, Looks (evaluator.decide features feature context none))
    (moment : Moment) (state : σ) (listed : List Feature) :
    (evaluator.answers features context listed).perform moment state =
      (.ok (answered (evaluator.verdict features context moment state) listed), state) := by
  induction listed with
  | nil => rfl
  | cons feature rest ih =>
    have deciding : (evaluator.decide features feature context none).attempt.perform moment state =
        (.ok ((evaluator.decide features feature context none).perform moment state).1, state) := by
      rw [perform_attempt, looks feature moment moment state]
    unfold Evaluator.answers answered verdict
    rw [perform_bind, deciding]
    dsimp only
    rw [perform_bind, ih]
    cases ((evaluator.decide features feature context none).perform moment state).1 with
    | ok decision => rfl
    | error fault => rfl

end Evaluator

/-! ### Registries of strategies -/

/-- The strategies that a constructor makes ask nothing else of a repository. -/
def StrategyFactory.Asks (calls : FeatureCall → Prop) (factory : StrategyFactory) : Prop :=
  ∀ params strategy, factory params = .ok strategy → strategy.Asks calls

/-- The strategies of a registry ask nothing else of a repository. -/
def StrategyRegistry.Asks (calls : FeatureCall → Prop) (registry : StrategyRegistry) : Prop :=
  ∀ (typeName : String) factory, registry.factories[typeName]? = some factory →
    StrategyFactory.Asks calls factory

section Registries

variable {calls : FeatureCall → Prop}

theorem StrategyRegistry.Asks.register {registry : StrategyRegistry} (asks : registry.Asks calls)
    {typeName : String} {factory : StrategyFactory} (made : StrategyFactory.Asks calls factory) :
    (registry.register typeName factory).Asks calls := by
  intro other found? held
  unfold StrategyRegistry.register at held
  rw [Table.getElem?_insert_eq] at held
  split at held
  · cases held
    exact made
  · exact asks other found? held

theorem StrategyRegistry.Asks.registerAll {registry : StrategyRegistry} (asks : registry.Asks calls)
    {entries : List (String × StrategyFactory)}
    (made : ∀ entry ∈ entries, StrategyFactory.Asks calls entry.2) :
    (entries.foldl (fun registry (name, factory) => registry.register name factory) registry).Asks
      calls := by
  induction entries generalizing registry with
  | nil => exact asks
  | cons entry rest ih =>
    obtain ⟨first, others⟩ := List.forall_mem_cons.mp made
    exact ih (asks.register first) others

/-- What the constructors of a registry make is what an evaluator over it consults. -/
theorem StrategyRegistry.Asks.evaluator {evaluator : Evaluator} (asks : evaluator.strategies.Asks calls) :
    evaluator.Asks calls := by
  intro config strategy created
  unfold StrategyRegistry.create at created
  split at created
  next factory held => exact asks config.typeName factory held config.params strategy created
  · cases created

namespace Catalogue

theorem plain_asks {typeName : String} {plan : String → Context → Plan Bool}
    (asks : ∀ id context, (plan id context).Asks calls) :
    StrategyFactory.Asks calls (plain typeName plan).2 := by
  intro params strategy made
  cases made
  exact asks

theorem withParam_asks {typeName key : String}
    {plan : String → Except Fault (String → Context → Plan Bool)}
    (asks : ∀ value decide, plan value = .ok decide → ∀ id context, (decide id context).Asks calls) :
    StrategyFactory.Asks calls (withParam typeName key plan).2 := by
  intro params strategy made
  obtain ⟨value, _, made⟩ := Outcome.bind_eq_ok.mp made
  obtain ⟨decide, planned, made⟩ := Outcome.bind_eq_ok.mp made
  cases made
  exact asks value decide planned

/-- **The strategies of the catalogue only read**: all but one do not even ask a repository. -/
theorem registry_asks : registry.Asks FeatureCall.IsRead := by
  have empty : StrategyRegistry.Asks FeatureCall.IsRead {} := by
    intro typeName factory held
    have missing : (∅ : Table StrategyFactory)[typeName]? = none := Std.ExtTreeMap.getElem?_empty
    exact nomatch missing.symm.trans held
  have dependsOn : ∀ other, (Plan.readFeature other fun feature => .done (.ok feature.enabled)).Asks
      FeatureCall.IsRead := fun other => ⟨rfl, fun answer => by cases answer <;> trivial⟩
  refine empty.registerAll ?_
  unfold all
  simp only [List.forall_mem_cons]
  refine ⟨?always_true, ?always_false, ?context_key, ?min_score, ?member_of, ?depends_on, ?exploding, nofun⟩
  case always_true | always_false | exploding => exact plain_asks fun _ _ => trivial
  case context_key | member_of =>
    refine withParam_asks fun value decide planned => ?_
    cases planned
    exact fun _ _ => trivial
  case min_score =>
    refine withParam_asks fun text decide planned => ?_
    split at planned
    · cases planned
      exact fun _ _ => trivial
    · cases planned
  case depends_on =>
    refine withParam_asks fun other decide planned => ?_
    cases planned
    exact fun _ _ => dependsOn other

end Catalogue

end Registries

end Switchboard

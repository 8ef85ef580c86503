/-
**What every action does to the state.**

* `Act.Leads related action` — wherever it starts, an action ends in a state that is related to the first one;
  `Act.FailsTo related action` — if it fails. For a relation that is reflexive and transitive the rules
  follow the ways in which actions are made.
* `Act.Keeps kept action` — what holds before the action holds after it.
* `Plan.Asks`, `Strategy.Asks`, `Evaluator.Asks` — a plan, a strategy or an evaluator makes no other calls of
  a repository than given ones.
* `Plan.run_leads`, `Evaluator.decide_leads`, `Evaluator.checkAll_leads`, `Evaluator.evaluate_leads`,
  `Secured.handle_leads` — what the calls lead to, so does what is made of them.
-/

import Switchboard.Evaluation.Evaluator
import Switchboard.Evaluation.Secured
import Switchboard.Proofs.Action.Perform

namespace Switchboard

namespace Act

variable {σ α β : Type}

/-- Wherever it starts, an action ends in a state that is related to the first one. -/
def Leads (related : σ → σ → Prop) (action : Act σ α) : Prop :=
  ∀ moment state, related state (action.perform moment state).2

namespace Leads

variable {related : σ → σ → Prop} (refl : ∀ state, related state state)

section Stays

include refl

theorem pure (value : α) : Leads related (Pure.pure value : Act σ α) := fun _ state => refl state

theorem throw (fault : Fault) : Leads related (MonadExcept.throw fault : Act σ α) :=
  fun _ state => refl state

theorem now : Leads related (Act.now : Act σ Time.Instant) := fun _ state => refl state

theorem lift (outcome : Except Fault α) : Leads related (Act.lift outcome : Act σ α) := by
  intro moment state
  rw [perform_lift]
  exact refl state

end Stays

theorem attempt {action : Act σ α} (leads : Leads related action) : Leads related action.attempt :=
  fun moment state => leads moment state

theorem bind (trans : ∀ first second third, related first second → related second third →
      related first third)
    {action : Act σ α} {next : α → Act σ β} (leads : Leads related action)
    (rest : ∀ value, Leads related (next value)) : Leads related (action >>= next) := by
  intro moment state
  rw [perform_bind]
  cases (action.perform moment state).1 with
  | ok value => exact trans _ _ _ (leads moment state) (rest value moment _)
  | error fault => exact leads moment state

/-- After a look at the state. -/
theorem get_bind {next : σ → Act σ β} (rest : ∀ state, Leads related (next state)) :
    Leads related (get >>= next) := by
  intro moment state
  rw [perform_bind_ok rfl]
  exact rest state moment state

theorem ite {condition : Prop} [Decidable condition] {yes no : Act σ α} (first : Leads related yes)
    (second : Leads related no) : Leads related (if condition then yes else no) := by
  split
  · exact first
  · exact second

end Leads

/-- What holds before an action holds after it. -/
def Keeps (kept : σ → Prop) (action : Act σ α) : Prop :=
  Leads (fun before after => kept before → kept after) action

namespace Keeps

variable {kept : σ → Prop}

theorem pure (value : α) : Keeps kept (Pure.pure value : Act σ α) := fun _ _ holds => holds

theorem bind {action : Act σ α} {next : α → Act σ β} (keeps : Keeps kept action)
    (rest : ∀ value, Keeps kept (next value)) : Keeps kept (action >>= next) :=
  Leads.bind (fun _ _ _ early late holds => late (early holds)) keeps rest

/-- After a look at the state, what follows only has to keep what holds of this state. -/
theorem get_bind {next : σ → Act σ β}
    (rest : ∀ moment state, kept state → kept ((next state).perform moment state).2) :
    Keeps kept (get >>= next) := by
  intro moment state holds
  rw [perform_bind_ok rfl]
  exact rest moment state holds

/-- On a part of the state. -/
theorem onPart {σ' : Type} {inner : σ' → Prop} {part : σ → σ'} {replace : σ' → σ → σ}
    {action : Act σ' α} (keeps : Keeps inner action) (enter : ∀ state, kept state → inner (part state))
    (leave : ∀ state changed, kept state → inner changed → kept (replace changed state)) :
    Keeps kept (Act.onPart part replace action) := by
  intro moment state holds
  rw [perform_onPart]
  exact leave state _ holds (keeps moment _ (enter state holds))

end Keeps

/-- Wherever it starts, an action that fails ends in a state that is related to the first one. -/
def FailsTo (related : σ → σ → Prop) (action : Act σ α) : Prop :=
  ∀ moment state fault, (action.perform moment state).1 = .error fault →
    related state (action.perform moment state).2

namespace FailsTo

variable {related : σ → σ → Prop}

theorem of_leads {action : Act σ α} (leads : Leads related action) : FailsTo related action :=
  fun moment state _ _ => leads moment state

theorem bind (trans : ∀ first second third, related first second → related second third →
      related first third)
    {action : Act σ α} {next : α → Act σ β} (leads : Leads related action)
    (rest : ∀ value, FailsTo related (next value)) : FailsTo related (action >>= next) := by
  intro moment state fault fails
  rw [perform_bind] at fails ⊢
  cases outcome : (action.perform moment state).1 with
  | ok value =>
    rw [outcome] at fails
    exact trans _ _ _ (leads moment state) (rest value moment _ fault fails)
  | error other => exact leads moment state

theorem ite {condition : Prop} [Decidable condition] {yes no : Act σ α} (first : FailsTo related yes)
    (second : FailsTo related no) : FailsTo related (if condition then yes else no) := by
  split
  · exact first
  · exact second

end FailsTo

end Act

/-! ### What is asked of a repository -/

/-- A plan asks nothing else of a repository. -/
def Plan.Asks {α : Type} (calls : FeatureCall → Prop) : Plan α → Prop
  | done _ => True
  | ask call next => calls call ∧ ∀ answer, (next answer).Asks calls

/-- A strategy asks nothing else of a repository. -/
def Strategy.Asks (calls : FeatureCall → Prop) (strategy : Strategy) : Prop :=
  ∀ featureId context, (strategy.plan featureId context).Asks calls

/-- The strategies of an evaluator ask nothing else of a repository. -/
def Evaluator.Asks (calls : FeatureCall → Prop) (evaluator : Evaluator) : Prop :=
  ∀ config strategy, evaluator.strategies.create config = .ok strategy → strategy.Asks calls

section Features

open Act

variable {σ α : Type} {features : FeatureHandler σ} {calls : FeatureCall → Prop} {related : σ → σ → Prop}
  (refl : ∀ state, related state state)
  (trans : ∀ first second third, related first second → related second third → related first third)
  (leads : ∀ call, calls call → Leads related (features call))

include refl trans leads

theorem Plan.run_leads {plan : Plan α} (asks : plan.Asks calls) : Leads related (plan.run features) := by
  induction plan with
  | done outcome => exact .lift refl outcome
  | ask call next ih =>
    exact (leads call asks.1).attempt.bind trans fun answer => ih answer (asks.2 answer)

theorem Evaluator.decide_leads {evaluator : Evaluator} (asks : evaluator.Asks calls) (feature : Feature)
    (context : Context) {override : Option Strategy}
    (given : ∀ strategy, override = some strategy → strategy.Asks calls) :
    Leads related (evaluator.decide features feature context override) := by
  have consulting : ∀ reason strategy, strategy.Asks calls →
      Leads related (Evaluator.consult features feature context reason strategy) :=
    fun reason strategy asks =>
      (Plan.run_leads refl trans leads (asks feature.id context)).bind trans fun _ => .pure refl _
  unfold Evaluator.decide
  refine .ite (.pure refl _) (.ite (.pure refl _) ?_)
  cases override with
  | some strategy => exact consulting _ strategy (given strategy rfl)
  | none =>
    dsimp only
    cases feature.strategy with
    | none => exact .pure refl _
    | some config =>
      -- The strategy is known to ask only what it may because it was created.
      intro moment state
      rw [perform_bind, perform_lift]
      cases created : evaluator.strategies.create config with
      | ok strategy => exact consulting _ strategy (asks config strategy created) moment state
      | error fault => exact refl state

theorem Evaluator.answers_leads {evaluator : Evaluator} (asks : evaluator.Asks calls) (context : Context)
    (listed : List Feature) : Leads related (evaluator.answers features context listed) := by
  induction listed with
  | nil => exact .pure refl _
  | cons feature rest ih =>
    have deciding : Leads related (evaluator.decide features feature context none) :=
      Evaluator.decide_leads refl trans leads asks feature context nofun
    refine deciding.attempt.bind trans fun outcome => ih.bind trans fun answers => ?_
    cases outcome with
    | ok decision => exact .pure refl _
    | error fault => exact .pure refl _

theorem Evaluator.checkAll_leads {evaluator : Evaluator} (asks : evaluator.Asks calls)
    (listing : calls (.store .all)) (context : Context) :
    Leads related (evaluator.checkAll features context) :=
  (leads _ listing).bind trans fun listed =>
    Evaluator.answers_leads refl trans leads asks context listed

theorem Evaluator.createMissing_leads (creating : ∀ feature, calls (.store (.create feature)))
    (id : String) : Leads related (Evaluator.createMissing features id) := by
  refine (Leads.now refl).bind trans fun now => ?_
  refine (leads _ (creating _)).attempt.bind trans fun outcome => ?_
  split
  · exact .pure refl _
  · exact .pure refl _
  · exact .throw refl _

omit leads in
/-- A creation that fails is passed over or passed on; one that succeeds is no failure. -/
theorem Evaluator.createMissing_failsTo
    (creating : ∀ feature, FailsTo related (features (.store (.create feature)))) (id : String) :
    FailsTo related (Evaluator.createMissing features id) := by
  refine FailsTo.bind trans (Leads.now refl) fun now moment state fault fails => ?_
  rw [perform_bind, perform_attempt] at fails ⊢
  dsimp only at fails ⊢
  cases created : ((features (.store (.create (Feature.new id now)))).perform moment state).1 with
  | ok done =>
    rw [created] at fails
    cases fails
  | error other =>
    have kept := creating _ moment state other created
    split
    · exact kept
    · exact kept
    · exact kept

/-- What a principal may do is found out by a fetch. -/
theorem Secured.authorized_leads (fetching : ∀ id, calls (.store (.fetch id))) (principal : Principal)
    (id : String) (permission : Permission) :
    Leads related (Secured.authorized features principal id permission) :=
  (leads _ (fetching id)).bind trans fun _ =>
    (Leads.lift refl _).bind trans fun _ => .pure refl _

/-- The calls of a principal are a fetch and the change that it permits. -/
theorem Secured.handle_leads (fetching : ∀ id, calls (.store (.fetch id)))
    (toggling : ∀ id enabled, calls (.setEnabled id enabled))
    (updating : ∀ feature, calls (.store (.update feature)))
    (deleting : ∀ id, calls (.store (.delete id)))
    (principal : Principal) (call : SecuredCall) :
    Leads related (Secured.handle features principal call) := by
  have authorizing := Secured.authorized_leads refl trans leads fetching principal
  cases call with
  | setEnabled id enabled =>
    exact (authorizing id .toggle).bind trans fun _ => leads _ (toggling id enabled)
  | delete id => exact (authorizing id .delete).bind trans fun _ => leads _ (deleting id)
  | edit id edit =>
    refine (authorizing id .editPermissions).bind trans fun feature => ?_
    exact (Leads.now refl).bind trans fun now => leads _ (updating _)
  | update feature =>
    refine (authorizing feature.id .update).bind trans fun stored => .ite ?_ (leads _ (updating feature))
    exact (Leads.lift refl _).bind trans fun _ => leads _ (updating feature)

end Features

section Evaluation

open Act

variable {σ : Type} {features : FeatureHandler (Notified FeatureNotice σ)} {calls : FeatureCall → Prop}
  {related : Notified FeatureNotice σ → Notified FeatureNotice σ → Prop}
  (refl : ∀ state, related state state)
  (trans : ∀ first second third, related first second → related second third → related first third)
  (leads : ∀ call, calls call → Leads related (features call))
  {evaluator : Evaluator} (asks : evaluator.Asks calls) {override : Option Strategy}
  (given : ∀ strategy, override = some strategy → strategy.Asks calls)
  (reading : ∀ id, calls (.store (.read id)))

include refl trans leads asks given reading

/-- An evaluation reads a feature, decides, and reports the use; or it creates what is missing. -/
theorem Evaluator.evaluate_leads (hit : ∀ id context, Leads related (Notified.submit [.used id context]))
    (creating : ∀ feature, calls (.store (.create feature))) (id : String) (context : Context) :
    Leads related (evaluator.evaluate features id context override) := by
  refine (leads _ (reading id)).attempt.bind trans fun outcome => ?_
  cases outcome with
  | error fault =>
    exact .ite (Evaluator.createMissing_leads refl trans leads creating id) (.throw refl _)
  | ok feature =>
    refine (Evaluator.decide_leads refl trans leads asks feature context given).bind trans ?_
    intro decision
    exact .ite ((hit id context).bind trans fun _ => .pure refl _) (.pure refl _)

/-- An evaluation that fails has not reported anything. -/
theorem Evaluator.evaluate_failsTo
    (creating : ∀ feature, FailsTo related (features (.store (.create feature)))) (id : String)
    (context : Context) : FailsTo related (evaluator.evaluate features id context override) := by
  refine FailsTo.bind trans (leads _ (reading id)).attempt fun outcome => ?_
  cases outcome with
  | error fault =>
    exact .ite (Evaluator.createMissing_failsTo refl trans creating id) (.of_leads (.throw refl _))
  | ok feature =>
    refine FailsTo.bind trans (Evaluator.decide_leads refl trans leads asks feature context given) ?_
    intro decision
    exact .ite (fun _ _ _ fails => nomatch fails) (.of_leads (.pure refl _))

end Evaluation

end Switchboard

/-
**The order of an evaluation.**

A feature that was read is off if it is disabled, off if the principal may not use it, and only then is a
strategy asked: the one given for the call, else the one the feature is bound to. If there is neither, the
feature is on.

* `Feature.barred?` — why no strategy is asked.
* `Evaluator.Approves` — the strategy that decides, if there is one, answers that the feature is on.
* `FeatureNotice.use?`, `FeatureNotice.uses` — the uses among what was submitted; calls of a repository submit none
  (`Layered.noUse_features`).
* `Evaluator.perform_evaluate` — an evaluation of a feature that was read is the decision for it, and then a
  report of its use if it is on.
* `Evaluator.Chain` — how evaluations decide for a feature; `Evaluator.chain_dominates` — they do, whatever a
  registry holds and strategies do.
-/

import Switchboard.Proofs.Evaluation.BulkChecks

namespace Switchboard

open Act

/-! ### What decides -/

/-- Why a feature is off for a principal before any strategy is asked. -/
def Feature.barred? (feature : Feature) (principal : Option Principal) : Option DecisionReason :=
  if !feature.enabled then some .disabled
  else if !feature.acl.grants principal .use then some .accessDenied
  else none

theorem Feature.barred?_eq_none {feature : Feature} {principal : Option Principal} :
    feature.barred? principal = none ↔
      feature.enabled = true ∧ feature.acl.grants principal .use = true := by
  unfold Feature.barred?
  cases feature.enabled <;> cases feature.acl.grants principal .use <;> decide

namespace Evaluator

section Decide

variable {σ : Type} {features : FeatureHandler σ} {evaluator : Evaluator} {feature : Feature}
  {context : Context} {override : Option Strategy}

/-- What a strategy answers for a feature. -/
def answer (features : FeatureHandler σ) (moment : Moment) (state : σ) (feature : Feature) (context : Context)
    (strategy : Strategy) : Except Fault Bool :=
  (((strategy.plan feature.id context).run features).perform moment state).1

/-- The strategy that decides for a feature, if there is one, answers that it is on. -/
def Approves (evaluator : Evaluator) (features : FeatureHandler σ) (moment : Moment) (state : σ)
    (feature : Feature) (context : Context) : Option Strategy → Prop
  | some strategy => answer features moment state feature context strategy = .ok true
  | none =>
    match feature.strategy with
    | some config => ∃ strategy, evaluator.strategies.create config = .ok strategy ∧
        answer features moment state feature context strategy = .ok true
    | none => True

/-- **A feature that is barred is off**: no strategy is made, and none is asked. -/
theorem decide_of_barred {reason : DecisionReason} (barred : feature.barred? context.principal = some reason) :
    evaluator.decide features feature context override = pure (.off feature.id reason) := by
  unfold Feature.barred? at barred
  unfold decide
  split at barred
  next disabled =>
    cases barred
    rw [if_pos disabled]
  next enabled =>
    split at barred
    next denied =>
      cases barred
      rw [if_neg enabled, if_pos denied]
    · cases barred

/-- **An override decides alone** for a feature that is not barred. -/
theorem decide_override (admitted : feature.barred? context.principal = none) (strategy : Strategy) :
    evaluator.decide features feature context (some strategy) =
      consult features feature context .overrideStrategy strategy := by
  obtain ⟨enabled, granted⟩ := Feature.barred?_eq_none.mp admitted
  simp only [decide, enabled, granted, Bool.not_true, Bool.false_eq_true, if_false]

/-- Without an override, the strategy decides that the feature is bound to. -/
theorem decide_bound (admitted : feature.barred? context.principal = none) {config : StrategyConfig}
    (bound : feature.strategy = some config) :
    evaluator.decide features feature context none =
      Act.lift (evaluator.strategies.create config) >>= consult features feature context .boundStrategy := by
  obtain ⟨enabled, granted⟩ := Feature.barred?_eq_none.mp admitted
  simp only [decide, enabled, granted, bound, Bool.not_true, Bool.false_eq_true, if_false]

/-- Without any strategy, the feature is on. -/
theorem decide_plain (admitted : feature.barred? context.principal = none)
    (unbound : feature.strategy = none) :
    evaluator.decide features feature context none = pure ⟨feature.id, true, .enabled⟩ := by
  obtain ⟨enabled, granted⟩ := Feature.barred?_eq_none.mp admitted
  simp only [decide, enabled, granted, unbound, Bool.not_true, Bool.false_eq_true, if_false]

theorem consulted (reason : DecisionReason) (strategy : Strategy) (moment : Moment) (state : σ) :
    ((consult features feature context reason strategy).perform moment state).1 =
      (answer features moment state feature context strategy).map (⟨feature.id, ·, reason⟩) := by
  unfold consult answer
  rw [perform_bind]
  cases (((strategy.plan feature.id context).run features).perform moment state).1 <;> rfl

/-- A consultation ends in a feature that is on only if the strategy answers so. -/
theorem answer_of_consulted {reason : DecisionReason} {strategy : Strategy} {moment : Moment} {state : σ}
    {decision : Decision}
    (decided : ((consult features feature context reason strategy).perform moment state).1 = .ok decision) :
    answer features moment state feature context strategy = .ok decision.enabled := by
  rw [consulted] at decided
  cases said : answer features moment state feature context strategy with
  | ok enabled =>
    rw [said] at decided
    cases decided
    rfl
  | error fault =>
    rw [said] at decided
    cases decided

/-- **A decision that a feature is on** needs that it is not barred and that the strategy approves. -/
theorem approves_of_decided {moment : Moment} {state : σ} {decision : Decision}
    (decided : ((evaluator.decide features feature context override).perform moment state).1 = .ok decision)
    (on : decision.enabled = true) :
    feature.barred? context.principal = none ∧
      evaluator.Approves features moment state feature context override := by
  cases barred : feature.barred? context.principal with
  | some reason =>
    rw [decide_of_barred barred] at decided
    cases decided
    cases on
  | none =>
    refine ⟨rfl, ?_⟩
    unfold Approves
    cases override with
    | some strategy =>
      rw [decide_override barred] at decided
      exact on ▸ answer_of_consulted decided
    | none =>
      dsimp only
      cases bound : feature.strategy with
      | none => trivial
      | some config =>
        rw [decide_bound barred bound, perform_bind, perform_lift] at decided
        dsimp only
        cases created : evaluator.strategies.create config with
        | ok strategy =>
          rw [created] at decided
          exact ⟨strategy, rfl, on ▸ answer_of_consulted decided⟩
        | error fault =>
          rw [created] at decided
          cases decided

end Decide

/-! ### What is reported -/

/-- The notices of an evaluation that has ended: one of the use of the feature if it is on and the evaluator
notifies. -/
def usage (evaluator : Evaluator) (id : String) (context : Context) :
    Except Fault Decision → List FeatureNotice
  | .ok decision => if decision.enabled && evaluator.notifies then [.used id context] else []
  | .error _ => []

section Evaluate

variable {σ : Type} {features : FeatureHandler (Notified FeatureNotice σ)} {evaluator : Evaluator}
  {context : Context} {override : Option Strategy} {moment : Moment} {state : Notified FeatureNotice σ}
  {id : String}

/-- A decision that has been made, and the report of it. -/
def reported (evaluator : Evaluator) (id : String) (context : Context)
    (decided : Except Fault Decision × Notified FeatureNotice σ) :
    Except Fault Decision × Notified FeatureNotice σ :=
  (decided.1, { decided.2 with submitted := decided.2.submitted ++ evaluator.usage id context decided.1 })

/-- **An evaluation of a feature that was read** is the decision for it, and then a report of its use. -/
theorem perform_evaluate {feature : Feature}
    (reads : ((features (.store (.read id))).perform moment state).1 = .ok feature) :
    (evaluator.evaluate features id context override).perform moment state =
      evaluator.reported id context ((evaluator.decide features feature context override).perform moment
        ((features (.store (.read id))).perform moment state).2) := by
  unfold evaluate
  rw [perform_bind, perform_attempt, reads]
  dsimp only
  rw [perform_bind]
  obtain ⟨outcome, after⟩ := (evaluator.decide features feature context override).perform moment
    ((features (.store (.read id))).perform moment state).2
  cases outcome with
  | error fault => exact Prod.ext rfl (congrArg (Notified.mk · after.below) (List.append_nil _).symm)
  | ok decision =>
    unfold reported usage
    dsimp only
    split
    · rfl
    · rw [List.append_nil]
      rfl

/-- **An evaluation of what cannot be read** fails, or creates a feature that is missing. -/
theorem perform_evaluate_unread {fault : Fault}
    (unread : ((features (.store (.read id))).perform moment state).1 = .error fault) :
    (evaluator.evaluate features id context override).perform moment state =
      if fault.isNotFound && evaluator.autoCreate then
        (createMissing features id).perform moment ((features (.store (.read id))).perform moment state).2
      else (.error fault, ((features (.store (.read id))).perform moment state).2) := by
  unfold evaluate
  rw [perform_bind, perform_attempt, unread]
  dsimp only
  split <;> rfl

/-- **A creation of a missing feature** answers that it was created, also if somebody else created it first. -/
theorem perform_createMissing :
    (createMissing features id).perform moment state =
      (match ((features (.store (.create (Feature.new id moment.wall)))).perform moment state).1 with
        | .ok _ | .error (.alreadyExists _ _) => .ok (.off id .autoCreated)
        | .error fault => .error fault,
        ((features (.store (.create (Feature.new id moment.wall)))).perform moment state).2) := by
  unfold createMissing
  rw [perform_bind, perform_now]
  dsimp only
  rw [perform_bind, perform_attempt]
  cases ((features (.store (.create (Feature.new id moment.wall)))).perform moment state).1 with
  | ok done => rfl
  | error fault => cases fault <;> rfl

/-- What could not be read is not on. -/
theorem off_of_unread {fault : Fault}
    (unread : ((features (.store (.read id))).perform moment state).1 = .error fault) {decision : Decision}
    (evaluated : ((evaluator.evaluate features id context override).perform moment state).1 = .ok decision) :
    decision.enabled = false := by
  rw [perform_evaluate_unread unread] at evaluated
  split at evaluated
  · rw [perform_createMissing] at evaluated
    dsimp only at evaluated
    split at evaluated
    · cases evaluated
      rfl
    · cases evaluated
      rfl
    · cases evaluated
  · cases evaluated

end Evaluate

end Evaluator

/-- The use of a feature that a notice tells of. -/
def FeatureNotice.use? : FeatureNotice → Option (String × Context)
  | .used id context => some (id, context)
  | .store _ | .toggled _ _ | .addedToGroup _ _ | .removedFromGroup _ _ => none

/-- The uses that notices tell of. -/
def FeatureNotice.uses (notices : List FeatureNotice) : List (String × Context) := notices.filterMap use?

/-- **The notices of a call tell of no use.** -/
theorem FeatureCall.noUse_notices (members : List Feature) (call : FeatureCall) :
    FeatureNotice.uses (call.notices members) = [] := by
  refine List.filterMap_eq_nil_iff.mpr fun notice listed => ?_
  cases call with
  | store call =>
    obtain ⟨notice, _, rfl⟩ := List.mem_map.mp listed
    rfl
  | setGroupEnabled group enabled =>
    obtain ⟨member, _, rfl⟩ := List.mem_map.mp listed
    rfl
  | setEnabled | addToGroup | removeFromGroup =>
    cases List.mem_singleton.mp listed
    rfl
  | hasGroup | readGroup | groups => cases listed

namespace Layered

variable {layers : Layers} {layered : Layered Feature FeatureNotice} {moment : Moment}

/-- No use was submitted on the way. -/
def NoUse (before after : Layered Feature FeatureNotice) : Prop :=
  FeatureNotice.uses after.submitted = FeatureNotice.uses before.submitted

theorem NoUse.refl (layered : Layered Feature FeatureNotice) : NoUse layered layered := rfl

theorem NoUse.trans (first second third : Layered Feature FeatureNotice) (early : NoUse first second)
    (late : NoUse second third) : NoUse first third := Eq.trans late early

/-- Nothing is a use of what is submitted if none of it is. -/
theorem NoUse.of_append {before after : Layered Feature FeatureNotice} {notices : List FeatureNotice}
    (submitted : after.submitted = before.submitted ++ notices)
    (none : FeatureNotice.uses notices = []) : NoUse before after := by
  unfold NoUse FeatureNotice.uses at *
  rw [submitted, List.filterMap_append, none, List.append_nil]

theorem uses_reported {α : Type} {notices : List FeatureNotice} (none : FeatureNotice.uses notices = [])
    (outcome : Except Fault α) : FeatureNotice.uses (Notified.reported notices outcome) = [] := by
  cases outcome with
  | ok value => exact none
  | error fault => rfl

/-- **A repository that notifies submits the notices of a call if it succeeds**, with or without a cache: if it switches
a group, those of some members. -/
theorem submitted_through (notifying : layers.notifying = true) (call : FeatureCall) (moment : Moment)
    (layered : Layered Feature FeatureNotice) :
    ∃ members, ((features layers call).perform moment layered).2.submitted = layered.submitted ++
      Notified.reported (call.notices members) ((features layers call).perform moment layered).1 := by
  by_cases read : call.IsRead
  · refine ⟨[], ?_⟩
    rw [FeatureCall.notices_of_read read, Notified.reported_nil, List.append_nil]
    exact quietly_read_through layers read moment layered
  · unfold features
    rw [if_pos notifying]
    generalize (if layers.cached then Caching.features (Repository.features Backend.handle)
      else Bypassing.handle (Repository.features Backend.handle)) = inner
    by_cases grouped : ∃ group enabled, call = .setGroupEnabled group enabled
    · obtain ⟨group, enabled, rfl⟩ := grouped
      unfold Notifying.features
      dsimp only
      rw [perform_bind, Notified.perform_under]
      cases ((inner (.readGroup group)).perform moment layered.below).1 with
      | error fault => exact ⟨[], (List.append_nil _).symm⟩
      | ok members =>
        refine ⟨members, ?_⟩
        dsimp only
        rw [Notified.perform_reported]
        rfl
    · have whole : ∀ id, call ≠ .store (.read id) := fun id same => read (same ▸ rfl)
      have reports := Notifying.reports_features inner whole fun group enabled same =>
        grouped ⟨group, enabled, same⟩
      refine ⟨[], ?_⟩
      rw [reports moment layered]

/-- **No call of a repository submits a use**, whichever layers there are. -/
theorem noUse_features (layers : Layers) (call : FeatureCall) : Leads NoUse (features layers call) := by
  intro moment layered
  cases notifying : layers.notifying with
  | true =>
    obtain ⟨members, submitted⟩ := submitted_through notifying call moment layered
    exact .of_append submitted (uses_reported (FeatureCall.noUse_notices members call) _)
  | false =>
    unfold features
    rw [notifying]
    rfl

/-- **In a state that a repository can reach, online, a stored feature is what is read.** -/
theorem Reachable.reads (reached : Reachable layers layered) (online : layered.backend.online = true)
    {id : String} {feature : Feature} (stored : layered.backend.store.find? id = some feature)
    (moment : Moment) :
    ((features layers (.store (.read id))).perform moment layered).1 = .ok feature ∧ feature.id = id := by
  have coherent := Cached.coherent_iff.mp reached.coherent id
  exact ⟨CoherentAt.reads coherent online stored moment, reached.coherent.keyed id feature stored⟩

end Layered

/-! ### The chain -/

namespace Evaluator

open Layered (features)

variable {layers : Layers} {layered : Layered Feature FeatureNotice} {moment : Moment} {id : String}
  {feature : Feature}

/-- An evaluation ends with a decision, leaves the store as it was, and submits nothing. -/
structure Rests (action : Act (Layered Feature FeatureNotice) Decision) (moment : Moment)
    (layered : Layered Feature FeatureNotice) (decision : Decision) : Prop where
  outcome : (action.perform moment layered).1 = .ok decision
  store : (action.perform moment layered).2.backend.store = layered.backend.store
  submitted : (action.perform moment layered).2.submitted = layered.submitted

/-- How evaluations decide for a feature that is read in a state: strategies are asked in the state that the
read leaves. -/
structure Chain (layers : Layers) (moment : Moment) (layered : Layered Feature FeatureNotice) (id : String)
    (feature : Feature) : Prop where
  /-- A disabled feature is off. -/
  disabled : feature.enabled = false → ∀ (evaluator : Evaluator) context override,
    Rests (evaluator.evaluate (features layers) id context override) moment layered
      (.off feature.id .disabled)
  /-- An enabled feature is off for a principal that may not use it. -/
  denied : feature.enabled = true → ∀ context : Context,
    feature.acl.grants context.principal .use = false → ∀ (evaluator : Evaluator) override,
      Rests (evaluator.evaluate (features layers) id context override) moment layered
        (.off feature.id .accessDenied)
  /-- Otherwise an override alone decides. -/
  overridden : feature.enabled = true → ∀ context : Context,
    feature.acl.grants context.principal .use = true → ∀ (evaluator : Evaluator) strategy,
      let looked := ((features layers (.store (.read id))).perform moment layered).2
      ((evaluator.evaluate (features layers) id context (some strategy)).perform moment layered).1 =
        (answer (features layers) moment looked feature context strategy).map
          (⟨feature.id, ·, .overrideStrategy⟩)
  /-- Without one, the strategy decides that the feature is bound to, if there is a strategy to make of it. -/
  bound : feature.enabled = true → ∀ context : Context,
    feature.acl.grants context.principal .use = true → ∀ (evaluator : Evaluator) config,
      feature.strategy = some config →
        let looked := ((features layers (.store (.read id))).perform moment layered).2
        ((evaluator.evaluate (features layers) id context none).perform moment layered).1 =
          (evaluator.strategies.create config >>= fun strategy =>
            (answer (features layers) moment looked feature context strategy).map
              (⟨feature.id, ·, .boundStrategy⟩))
  /-- Without any strategy the feature is on. -/
  plain : feature.enabled = true → ∀ context : Context,
    feature.acl.grants context.principal .use = true → ∀ evaluator : Evaluator, feature.strategy = none →
      ((evaluator.evaluate (features layers) id context none).perform moment layered).1 =
        .ok ⟨feature.id, true, .enabled⟩

/-- **The evaluation of a feature that is barred rests.** -/
theorem rests_of_barred (reads : ((features layers (.store (.read id))).perform moment layered).1 = .ok feature)
    {context : Context} {reason : DecisionReason} (barred : feature.barred? context.principal = some reason)
    (evaluator : Evaluator) (override : Option Strategy) :
    Rests (evaluator.evaluate (features layers) id context override) moment layered
      (.off feature.id reason) := by
  have evaluated : (evaluator.evaluate (features layers) id context override).perform moment layered =
      evaluator.reported id context (.ok (.off feature.id reason),
        ((features layers (.store (.read id))).perform moment layered).2) := by
    rw [perform_evaluate reads, decide_of_barred barred, perform_pure]
  have looked := Layered.leftAlone_of_single_read layers id moment layered
  constructor <;> rw [evaluated]
  · rfl
  · exact looked.store
  · exact (List.append_nil _).trans looked.submitted

theorem outcome_evaluate
    (reads : ((features layers (.store (.read id))).perform moment layered).1 = .ok feature)
    (evaluator : Evaluator) (context : Context) (override : Option Strategy) :
    ((evaluator.evaluate (features layers) id context override).perform moment layered).1 =
      ((evaluator.decide (features layers) feature context override).perform moment
        ((features layers (.store (.read id))).perform moment layered).2).1 := by
  rw [perform_evaluate reads]
  rfl

/-- **Evaluations decide for a feature that is read** as the chain says. -/
theorem chain_of_read (reads : ((features layers (.store (.read id))).perform moment layered).1 = .ok feature) :
    Chain layers moment layered id feature where
  disabled off evaluator context override := by
    refine rests_of_barred reads ?_ evaluator override
    simp only [Feature.barred?, off, Bool.not_false, if_true]
  denied on context withheld evaluator override := by
    refine rests_of_barred reads ?_ evaluator override
    simp only [Feature.barred?, on, withheld, Bool.not_true, Bool.not_false, Bool.false_eq_true, if_true,
      if_false]
  overridden on context granted evaluator strategy := by
    rw [outcome_evaluate reads, decide_override (Feature.barred?_eq_none.mpr ⟨on, granted⟩)]
    exact consulted _ _ _ _
  bound on context granted evaluator config bound := by
    rw [outcome_evaluate reads, decide_bound (Feature.barred?_eq_none.mpr ⟨on, granted⟩) bound, perform_bind,
      perform_lift]
    cases evaluator.strategies.create config with
    | ok strategy => exact consulted _ _ _ _
    | error fault => rfl
  plain on context granted evaluator unbound := by
    rw [outcome_evaluate reads, decide_plain (Feature.barred?_eq_none.mpr ⟨on, granted⟩) unbound]
    rfl

/-- **An answer that a feature is on** comes of a feature that was read, is not barred, and is approved. -/
theorem approved_of_evaluated {evaluator : Evaluator} {context : Context} {override : Option Strategy}
    {decision : Decision}
    (evaluated : ((evaluator.evaluate (features layers) id context override).perform moment layered).1 =
      .ok decision) (on : decision.enabled = true) :
    let read := (features layers (.store (.read id))).perform moment layered
    ∃ feature, read.1 = .ok feature ∧ feature.enabled = true ∧
      feature.acl.grants context.principal .use = true ∧
      evaluator.Approves (features layers) moment read.2 feature context override := by
  intro read
  cases reads : read.1 with
  | error fault => exact nomatch on.symm.trans (off_of_unread reads evaluated)
  | ok feature =>
    rw [outcome_evaluate reads] at evaluated
    obtain ⟨admitted, approved⟩ := approves_of_decided evaluated on
    obtain ⟨enabled, granted⟩ := Feature.barred?_eq_none.mp admitted
    exact ⟨feature, rfl, enabled, granted, approved⟩

/-- **The uses that an evaluation submits**: that of the feature if the answer is that it is on. -/
theorem uses_of_evaluated (evaluator : Evaluator) (context : Context) (override : Option Strategy) :
    let evaluated := (evaluator.evaluate (features layers) id context override).perform moment layered
    FeatureNotice.uses evaluated.2.submitted = FeatureNotice.uses layered.submitted ++
      if evaluated.1.toOption.any Decision.enabled && evaluator.notifies then [(id, context)] else [] := by
  have every : ∀ call, True → Leads Layered.NoUse (features layers call) :=
    fun call _ => Layered.noUse_features layers call
  have looking := Layered.noUse_features layers (.store (.read id)) moment layered
  dsimp only
  cases reads : ((features layers (.store (.read id))).perform moment layered).1 with
  | error fault =>
    have off : (((evaluator.evaluate (features layers) id context override).perform moment
        layered).1.toOption.any Decision.enabled) = false := by
      cases evaluated : ((evaluator.evaluate (features layers) id context override).perform moment layered).1 with
      | error fault => rfl
      | ok decision => exact off_of_unread reads evaluated
    rw [off, Bool.false_and, if_neg Bool.false_ne_true, List.append_nil]
    rw [perform_evaluate_unread reads]
    refine Eq.trans ?_ looking
    split
    · exact createMissing_leads Layered.NoUse.refl Layered.NoUse.trans every (fun _ => trivial) id moment _
    · rfl
  | ok feature =>
    have deciding : Leads Layered.NoUse (evaluator.decide (features layers) feature context override) :=
      decide_leads Layered.NoUse.refl Layered.NoUse.trans every
        (fun _ _ _ _ _ => Layered.asks_anything _) feature context fun _ _ _ _ => Layered.asks_anything _
    rw [perform_evaluate reads]
    unfold reported FeatureNotice.uses
    rw [List.filterMap_append]
    refine congrArg₂ (· ++ ·) (Eq.trans (deciding moment _) looking) ?_
    cases ((evaluator.decide (features layers) feature context override).perform moment
        ((features layers (.store (.read id))).perform moment layered).2).1 with
    | error fault => rfl
    | ok decision =>
      unfold usage
      show List.filterMap _ (if decision.enabled && evaluator.notifies then _ else _) =
        if decision.enabled && evaluator.notifies then _ else _
      split <;> rfl

/-- **The chain of an evaluation dominates strictly**, whatever strategies and their constructors answer, fail
with or do. A stored feature is what is read in every state that a repository can reach online. For a feature
that is read, evaluations decide as the chain says. Evaluations of a barred feature for one principal rest with
one decision, whatever it is bound to, whatever else the contexts hold, and whatever the registries and
overrides are. The answer is that a feature is on only if it is enabled, may be used, and is approved by the
strategy that decides; exactly then an evaluator that notifies submits its use, once. -/
theorem chain_dominates (layers : Layers) (layered : Layered Feature FeatureNotice) (moment : Moment)
    (id : String) :
    let read := (features layers (.store (.read id))).perform moment layered
    (Layered.Reachable layers layered → layered.backend.online = true → ∀ feature,
      layered.backend.store.find? id = some feature → read.1 = .ok feature ∧ feature.id = id) ∧
    (∀ feature, read.1 = .ok feature → Chain layers moment layered id feature) ∧
    (∀ feature, read.1 = .ok feature → ∀ (other : Layered Feature FeatureNotice) (later : Moment) (twin : Feature),
      ((features layers (.store (.read id))).perform later other).1 = .ok twin →
      twin.id = feature.id → twin.enabled = feature.enabled → twin.acl = feature.acl →
      ∀ context changed : Context, changed.principal = context.principal →
        (feature.enabled = false ∨ feature.acl.grants context.principal .use = false) →
        ∀ (evaluator rival : Evaluator) override rivalOverride, ∃ decision : Decision,
          decision.enabled = false ∧
          Rests (evaluator.evaluate (features layers) id context override) moment layered decision ∧
          Rests (rival.evaluate (features layers) id changed rivalOverride) later other decision) ∧
    ∀ (evaluator : Evaluator) context override,
      let evaluated := (evaluator.evaluate (features layers) id context override).perform moment layered
      (∀ decision, evaluated.1 = .ok decision → decision.enabled = true →
        ∃ feature, read.1 = .ok feature ∧ feature.enabled = true ∧
          feature.acl.grants context.principal .use = true ∧
          evaluator.Approves (features layers) moment read.2 feature context override) ∧
      FeatureNotice.uses evaluated.2.submitted = FeatureNotice.uses layered.submitted ++
        if evaluated.1.toOption.any Decision.enabled && evaluator.notifies then [(id, context)] else [] := by
  intro read
  refine ⟨fun reached online feature stored => reached.reads online stored moment,
    fun feature reads => chain_of_read reads, ?_, fun evaluator context override =>
      ⟨fun decision evaluated on => approved_of_evaluated evaluated on, uses_of_evaluated evaluator context override⟩⟩
  intro feature reads other later twin twinReads sameId sameSwitch sameList context changed samePrincipal off
    evaluator rival override rivalOverride
  obtain ⟨reason, barred⟩ : ∃ reason, feature.barred? context.principal = some reason := by
    refine Option.ne_none_iff_exists'.mp fun admitted => ?_
    obtain ⟨enabled, granted⟩ := Feature.barred?_eq_none.mp admitted
    rcases off with disabled | denied
    · exact nomatch enabled.symm.trans disabled
    · exact nomatch granted.symm.trans denied
  have twinBarred : twin.barred? changed.principal = some reason := by
    rw [← barred]
    unfold Feature.barred?
    rw [sameSwitch, sameList, samePrincipal]
  refine ⟨.off feature.id reason, rfl, rests_of_barred reads barred evaluator override, ?_⟩
  rw [← sameId]
  exact rests_of_barred twinReads twinBarred rival rivalOverride

/-- The strategy of a door, a lamp and a safe always fails. The door is off because it is disabled, whatever
overrides it; the safe is off because nobody may use it; only the evaluation of the lamp fails, unless it is
overridden. -/
theorem chain_dominates_lamps :
    let feature := fun id enabled acl =>
      { Feature.new id .epoch with enabled, acl, strategy := some ⟨"exploding", ∅⟩ }
    let nobody : AccessList := ({} : AccessList).apply (.restrict .use)
    let store := ((Store.empty.insert (feature "door" false {})).insert (feature "lamp" true {})).insert
      (feature "safe" true nobody)
    let layered : Layered Feature FeatureNotice := Layered.new store 10 4 (fun _ => 0)
    let evaluator : Evaluator := { strategies := Catalogue.registry }
    let always : Strategy := { typeName := "always_true", plan := Catalogue.looking fun _ => true }
    let evaluate := fun id override => evaluator.evaluate (features Layered.allLayers) id .empty override
    let lit := (evaluate "lamp" (some always)).perform ⟨1, .epoch⟩ layered
    Rests (evaluate "door" (some always)) ⟨1, .epoch⟩ layered (.off "door" .disabled) ∧
      Rests (evaluate "safe" none) ⟨1, .epoch⟩ layered (.off "safe" .accessDenied) ∧
      ((evaluate "lamp" none).perform ⟨1, .epoch⟩ layered).1 =
        .error (.internal "strategy exploded on lamp") ∧
      lit.1 = .ok ⟨"lamp", true, .overrideStrategy⟩ ∧ FeatureNotice.uses lit.2.submitted = [("lamp", .empty)] := by
  intro feature nobody store layered evaluator always evaluate lit
  have keyed : store.Keyed := ((Store.keyed_empty.insert _).insert _).insert _
  have reached : Layered.Reachable Layered.allLayers layered := .new keyed 10 4 _
  have stored : store.find? "door" = some (feature "door" false {}) ∧
      store.find? "lamp" = some (feature "lamp" true {}) ∧
      store.find? "safe" = some (feature "safe" true nobody) := by
    simp only [store, Store.find?_insert]
    exact ⟨rfl, rfl, rfl⟩
  have chain : ∀ id found, store.find? id = some found →
      Chain Layered.allLayers ⟨1, .epoch⟩ layered id found := fun id found kept =>
    let dominates := chain_dominates Layered.allLayers layered ⟨1, .epoch⟩ id
    dominates.2.1 found (dominates.1 reached rfl found kept).1
  have lamp := chain "lamp" _ stored.2.1
  have lights : lit.1 = .ok ⟨"lamp", true, .overrideStrategy⟩ := lamp.overridden rfl .empty rfl evaluator always
  refine ⟨(chain "door" _ stored.1).disabled rfl evaluator .empty _,
    (chain "safe" _ stored.2.2).denied rfl .empty ?_ evaluator none,
    lamp.bound rfl .empty rfl evaluator ⟨"exploding", ∅⟩ rfl, lights, ?_⟩
  · dsimp only [feature, nobody]
    rfl
  · have told := ((chain_dominates Layered.allLayers layered ⟨1, .epoch⟩ "lamp").2.2.2 evaluator .empty
      (some always)).2
    have outcome : ((evaluator.evaluate (features Layered.allLayers) "lamp" .empty (some always)).perform
      ⟨1, .epoch⟩ layered).1 = .ok ⟨"lamp", true, .overrideStrategy⟩ := lights
    rw [outcome] at told
    exact told

end Evaluator

end Switchboard

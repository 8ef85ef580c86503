/-
**Repositories over handlers that agree.**

* `Repository.features_agree`, `Repository.properties_agree` — calls made of calls agree as soon as the
  calls below agree.
* `Notified.Alike` — two states with notices: what was submitted since a given time is the same, and
  the states below are related.
* `Notifying.features_agree`, `Notifying.properties_agree`, `Secured.handle_agree`,
  `Evaluator.evaluate_agree`, `Evaluator.checkAll_agree` — the same for what is built on repositories. A
  call of the upper layer needs the agreement of the calls that it makes, and of no others.
-/

import Switchboard.Evaluation.Evaluator
import Switchboard.Evaluation.Secured
import Switchboard.Proofs.Action.Agree
import Switchboard.Repository.Composed

namespace Switchboard

open Act

variable {E N σ τ α : Type} {related : σ → τ → Prop}

/-! ### Calls made of calls -/

namespace Repository

section Store

variable {left : StoreHandler E σ} {right : StoreHandler E τ}
  (same : ∀ call, Agree related (left call) (right call))

include same

theorem changing_agree (id : String) (change : E → Time.Instant → Except Fault E) :
    Agree related (changing left id change) (changing right id change) := by
  refine (same (.fetch id)).bind fun entity => Agree.now.bind fun now => ?_
  exact (Agree.lift _).bind fun changed => same (.update changed)

end Store

section Features

variable {left : StoreHandler Feature σ} {right : StoreHandler Feature τ}
  (same : ∀ call, Agree related (left call) (right call))

include same

theorem members_agree (group : String) : Agree related (members left group) (members right group) := by
  refine (same .all).bind fun features => ?_
  split
  · exact Agree.throw _
  · exact Agree.pure _

theorem features_agree (call : FeatureCall) :
    Agree related (features left call) (features right call) := by
  cases call with
  | store call => exact same call
  | setEnabled id enabled => exact changing_agree same id _
  | addToGroup id group => exact (Agree.lift _).bind fun _ => changing_agree same id _
  | removeFromGroup id group => exact changing_agree same id _
  | hasGroup group => exact (same .all).bind fun features => Agree.pure _
  | readGroup group => exact members_agree same group
  | groups => exact (same .all).bind fun features => Agree.pure _
  | setGroupEnabled group enabled =>
    refine (members_agree same group).bind fun members => Agree.now.bind fun now => ?_
    exact same (.save _)

end Features

theorem properties_agree {left : StoreHandler Property σ} {right : StoreHandler Property τ}
    (same : ∀ call, Agree related (left call) (right call)) (call : PropertyCall) :
    Agree related (properties left call) (properties right call) := by
  cases call with
  | store call => exact same call
  | setValue id raw => exact changing_agree same id _

end Repository

/-! ### Notices -/

/-- What was submitted since `start` and since `start'` is the same, and the states below are related. -/
def Notified.Alike (start start' : List N) (below : σ → τ → Prop) (left : Notified N σ)
    (right : Notified N τ) : Prop :=
  (∃ notices, left.submitted = start ++ notices ∧ right.submitted = start' ++ notices) ∧
    below left.below right.below

namespace Notified

variable {start start' : List N}

theorem under_agree {left : Act σ α} {right : Act τ α} (same : Agree related left right) :
    Agree (Alike start start' related) (under left) (under right) :=
  same.onPart (fun _ _ alike => alike.2) fun _ _ _ _ alike changed => ⟨alike.1, changed⟩

theorem submit_agree (notices : List N) :
    Agree (Alike start start' related) (submit notices) (submit notices) := by
  refine Agree.modify ?_
  rintro left right ⟨⟨earlier, first, second⟩, below⟩
  refine ⟨⟨earlier ++ notices, ?_, ?_⟩, below⟩
  · rw [first, List.append_assoc]
  · rw [second, List.append_assoc]

end Notified

namespace Notifying

open Notified

variable {start start' : List N}

section Store

variable [Entity E] {left : StoreHandler E σ} {right : StoreHandler E τ} {calls : StoreCall E → Prop}

theorem store_agree (notice : StoreNotice E → N)
    (same : Handler.AgreeOn calls related left right)
    (reading : ∀ id, calls (.read id) → calls (.find id)) {call : StoreCall E} (asked : calls call) :
    Agree (Alike start start' related) (store notice left call) (store notice right call) := by
  cases call with
  | has id => exact under_agree (same _ asked)
  | find id => exact under_agree (same _ asked)
  | fetch id => exact under_agree (same _ asked)
  | all => exact under_agree (same _ asked)
  | count => exact under_agree (same _ asked)
  | read id => exact (under_agree (same _ (reading id asked))).bind fun _ => Agree.lift _
  | create entity => exact (under_agree (same _ asked)).bind fun _ => submit_agree _
  | update entity => exact (under_agree (same _ asked)).bind fun _ => submit_agree _
  | delete id => exact (under_agree (same _ asked)).bind fun _ => submit_agree _
  | save entities => exact (under_agree (same _ asked)).bind fun _ => submit_agree _
  | deleteAll => exact (under_agree (same _ asked)).bind fun _ => submit_agree _
  | prepare => exact (under_agree (same _ asked)).bind fun _ => submit_agree _

end Store

section Features

variable {start start' : List FeatureNotice} {left : FeatureHandler σ} {right : FeatureHandler τ}
  {calls : FeatureCall → Prop}

theorem features_agree (same : Handler.AgreeOn calls related left right)
    (reading : ∀ id, calls (.store (.read id)) → calls (.store (.find id)))
    (listing : ∀ group enabled, calls (.setGroupEnabled group enabled) → calls (.readGroup group))
    {call : FeatureCall} (asked : calls call) :
    Agree (Alike start start' related) (features left call) (features right call) := by
  cases call with
  | store call => exact store_agree _ (fun inner => same (.store inner)) reading asked
  | setEnabled id enabled => exact (under_agree (same _ asked)).bind fun _ => submit_agree _
  | addToGroup id group => exact (under_agree (same _ asked)).bind fun _ => submit_agree _
  | removeFromGroup id group => exact (under_agree (same _ asked)).bind fun _ => submit_agree _
  | hasGroup group => exact under_agree (same _ asked)
  | readGroup group => exact under_agree (same _ asked)
  | groups => exact under_agree (same _ asked)
  | setGroupEnabled group enabled =>
    refine (under_agree (same _ (listing group enabled asked))).bind fun members => ?_
    exact (under_agree (same _ asked)).bind fun _ => submit_agree _

end Features

section Properties

variable {start start' : List PropertyNotice} {left : PropertyHandler σ} {right : PropertyHandler τ}
  {calls : PropertyCall → Prop}

theorem properties_agree (same : Handler.AgreeOn calls related left right)
    (reading : ∀ id, calls (.store (.read id)) → calls (.store (.find id)))
    (fetching : ∀ id raw, calls (.setValue id raw) → calls (.store (.fetch id)))
    {call : PropertyCall} (asked : calls call) :
    Agree (Alike start start' related) (properties left call) (properties right call) := by
  cases call with
  | store call => exact store_agree _ (fun inner => same (.store inner)) reading asked
  | setValue id raw =>
    refine (under_agree (same _ asked)).bind fun _ => ?_
    exact (under_agree (same _ (fetching id raw asked))).bind fun _ => submit_agree _

end Properties

end Notifying

/-! ### Access lists and evaluation -/

section Features

variable {left : FeatureHandler σ} {right : FeatureHandler τ}

/-- The calls of a principal need the agreement of fetches, and of the changes that they make. -/
theorem Secured.handle_agree {calls : FeatureCall → Prop}
    (same : Handler.AgreeOn calls related left right)
    (fetching : ∀ id, calls (.store (.fetch id)))
    (toggling : ∀ id enabled, calls (.setEnabled id enabled))
    (updating : ∀ feature, calls (.store (.update feature)))
    (deleting : ∀ id, calls (.store (.delete id)))
    (principal : Principal) (call : SecuredCall) :
    Agree related (Secured.handle left principal call) (Secured.handle right principal call) := by
  have authorizing : ∀ id permission, Agree related (Secured.authorized left principal id permission)
      (Secured.authorized right principal id permission) := fun id permission =>
    (same _ (fetching id)).bind fun feature => (Agree.lift _).bind fun _ => Agree.pure _
  cases call with
  | setEnabled id enabled =>
    exact (authorizing id .toggle).bind fun _ => same _ (toggling id enabled)
  | delete id => exact (authorizing id .delete).bind fun _ => same _ (deleting id)
  | edit id edit =>
    refine (authorizing id .editPermissions).bind fun feature => Agree.now.bind fun now => ?_
    exact same _ (updating _)
  | update feature =>
    refine (authorizing feature.id .update).bind fun stored => ?_
    exact Agree.ite ((Agree.lift _).bind fun _ => same _ (updating feature)) (same _ (updating feature))

variable (same : ∀ call, Agree related (left call) (right call))

include same

theorem Plan.run_agree (plan : Plan α) : Agree related (plan.run left) (plan.run right) := by
  induction plan with
  | done outcome => exact Agree.lift outcome
  | ask call next ih => exact (same call).attempt.bind fun answer => ih answer

theorem Evaluator.decide_agree (evaluator : Evaluator) (feature : Feature) (context : Context)
    (override : Option Strategy) :
    Agree related (evaluator.decide left feature context override)
      (evaluator.decide right feature context override) := by
  have consulting : ∀ reason strategy,
      Agree related (Evaluator.consult left feature context reason strategy)
        (Evaluator.consult right feature context reason strategy) := fun reason strategy =>
    (Plan.run_agree same _).bind fun enabled => Agree.pure _
  unfold Evaluator.decide
  refine Agree.ite (Agree.pure _) (Agree.ite (Agree.pure _) ?_)
  cases override with
  | some strategy => exact consulting _ strategy
  | none =>
    dsimp only
    cases feature.strategy with
    | some config => exact (Agree.lift _).bind fun strategy => consulting _ strategy
    | none => exact Agree.pure _

theorem Evaluator.answers_agree (evaluator : Evaluator) (context : Context) (features : List Feature) :
    Agree related (evaluator.answers left context features)
      (evaluator.answers right context features) := by
  induction features with
  | nil => exact Agree.pure _
  | cons feature rest ih =>
    refine (Evaluator.decide_agree same evaluator feature context none).attempt.bind fun outcome => ?_
    refine ih.bind fun answers => ?_
    cases outcome with
    | ok decision => exact Agree.pure _
    | error fault => exact Agree.pure _

theorem Evaluator.checkAll_agree (evaluator : Evaluator) (context : Context) :
    Agree related (evaluator.checkAll left context) (evaluator.checkAll right context) :=
  (same (.store .all)).bind fun features => Evaluator.answers_agree same evaluator context features

theorem Evaluator.createMissing_agree (id : String) :
    Agree related (Evaluator.createMissing left id) (Evaluator.createMissing right id) := by
  refine Agree.now.bind fun now => (same _).attempt.bind fun outcome => ?_
  split
  · exact Agree.pure _
  · exact Agree.pure _
  · exact Agree.throw _

end Features

theorem Evaluator.evaluate_agree {start start' : List FeatureNotice}
    {left : FeatureHandler (Notified FeatureNotice σ)} {right : FeatureHandler (Notified FeatureNotice τ)}
    (same : ∀ call, Agree (Notified.Alike start start' related) (left call) (right call))
    (evaluator : Evaluator) (id : String) (context : Context) (override : Option Strategy) :
    Agree (Notified.Alike start start' related) (evaluator.evaluate left id context override)
      (evaluator.evaluate right id context override) := by
  refine (same (.store (.read id))).attempt.bind fun outcome => ?_
  cases outcome with
  | error fault => exact Agree.ite (Evaluator.createMissing_agree same id) (Agree.throw _)
  | ok feature =>
    refine (Evaluator.decide_agree same evaluator feature context override).bind fun decision => ?_
    exact Agree.ite ((Notified.submit_agree _).bind fun _ => Agree.pure _) (Agree.pure _)

end Switchboard

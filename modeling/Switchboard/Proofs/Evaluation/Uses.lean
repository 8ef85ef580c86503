/-
**What operations count for the usage of features.**

* `FeatureCall.removals`, `Plan.removals`, `Evaluator.removals` — what a call deletes if it succeeds, and what the
  calls of strategies delete, by the answers that they get.
* `FeatureOperation.history` — what an operation on features counts for the usage, by its answer: a hit is an evaluation
  that answers that the feature is on. A check of all features counts no hit (`FeatureOperation.noHit_checkAll`).
* `Layered.Tells` — notices were submitted that tell of given events; `Layered.tells_operation` — every operation
  submits notices that tell just what it counts for the usage.
-/

import Switchboard.Proofs.Delivery.Usage
import Switchboard.Proofs.Evaluation.Chain

namespace Switchboard

open Act

/-! ### Deletions, by what is answered -/

/-- What a call deletes if it succeeds. -/
def FeatureCall.removals : FeatureCall → List UsageEvent
  | store (.delete id) => [.removed id]
  | store .deleteAll => [.cleared]
  | _ => []

/-- What a call of a principal deletes if it succeeds. -/
def SecuredCall.removals : SecuredCall → List UsageEvent
  | delete id => [.removed id]
  | setEnabled _ _ | update _ | edit _ _ => []

/-- What the calls of a plan delete, by the answers that they get. -/
def Plan.removals {σ α : Type} (features : FeatureHandler σ) (moment : Moment) : Plan α → σ → List UsageEvent
  | done _, _ => []
  | ask call next, state =>
    let answered := (features call).perform moment state
    Notified.reported call.removals answered.1 ++
      Plan.removals features moment (next answered.1) answered.2

namespace Evaluator

section History

variable {σ : Type} (evaluator : Evaluator) (features : FeatureHandler σ) (moment : Moment) (context : Context)

/-- The strategy that is asked about a feature: none if the feature is barred, else one that was given, else the one
that the feature is bound to. -/
def asked? (feature : Feature) (override : Option Strategy) : Option Strategy :=
  match feature.barred? context.principal, override with
  | some _, _ => none
  | none, some strategy => some strategy
  | none, none => feature.strategy.bind fun config => (evaluator.strategies.create config).toOption

/-- What the strategy that is asked about a feature deletes. -/
def removals (feature : Feature) (override : Option Strategy) (state : σ) : List UsageEvent :=
  match evaluator.asked? context feature override with
  | some strategy => (strategy.plan feature.id context).removals features moment state
  | none => []

/-- What the strategies delete that are asked about features, one after the other. -/
def removalsOfAll : List Feature → σ → List UsageEvent
  | [], _ => []
  | feature :: rest, state =>
    evaluator.removals features moment context feature none state ++
      removalsOfAll rest ((evaluator.decide features feature context none).perform moment state).2

end History

/-- A hit, if an evaluation has answered that the feature is on. -/
def hit (id : String) : Except Fault Decision → List UsageEvent
  | .ok decision => if decision.enabled then [.hit id] else []
  | .error _ => []

end Evaluator

/-- What an operation on features, made through given layers, counts for the usage: hits and deletions, by what is
answered. -/
def FeatureOperation.history (layers : Layers) (moment : Moment) (layered : Layered Feature FeatureNotice)
    (operation : FeatureOperation) : List UsageEvent :=
  let features := Layered.features layers
  match operation with
  | ask call => Notified.reported call.removals ((features call).perform moment layered).1
  | evaluate evaluator id context override =>
    let read := (features (.store (.read id))).perform moment layered
    let evaluated := (evaluator.evaluate features id context override).perform moment layered
    (match read.1 with
      | .ok feature => evaluator.removals features moment context feature override read.2
      | .error _ => []) ++ Evaluator.hit id evaluated.1
  | checkAll evaluator context =>
    let listed := (features (.store .all)).perform moment layered
    match listed.1 with
    | .ok found => evaluator.removalsOfAll features moment context found listed.2
    | .error _ => []
  | secured principal call =>
    Notified.reported call.removals ((Secured.handle features principal call).perform moment layered).1

/-- The evaluator of an operation reports what is on. -/
def FeatureOperation.Notifies : FeatureOperation → Prop
  | evaluate evaluator _ _ _ => evaluator.notifies = true
  | ask _ | checkAll _ _ | secured _ _ => True

/-! ### Hits -/

section Hits

variable {id : String}

theorem FeatureCall.noHit_removals (call : FeatureCall) : .hit id ∉ call.removals := by
  unfold FeatureCall.removals
  split <;> simp

theorem noHit_reported {α : Type} {events : List UsageEvent} (none : .hit id ∉ events) (outcome : Except Fault α) :
    .hit id ∉ Notified.reported events outcome := by
  cases outcome with
  | ok reply => exact none
  | error fault => exact List.not_mem_nil

/-- What strategies do counts no hit. -/
theorem Plan.noHit_removals {σ α : Type} (features : FeatureHandler σ) (moment : Moment) (plan : Plan α)
    (state : σ) : .hit id ∉ plan.removals features moment state := by
  induction plan generalizing state with
  | done outcome => exact List.not_mem_nil
  | ask call next ih =>
    unfold Plan.removals
    rw [List.mem_append, not_or]
    exact ⟨noHit_reported call.noHit_removals _, ih _ _⟩

theorem Evaluator.noHit_removalsOfAll {σ : Type} (evaluator : Evaluator) (features : FeatureHandler σ)
    (moment : Moment) (context : Context) (listed : List Feature) (state : σ) :
    .hit id ∉ evaluator.removalsOfAll features moment context listed state := by
  induction listed generalizing state with
  | nil => exact List.not_mem_nil
  | cons feature rest ih =>
    unfold Evaluator.removalsOfAll Evaluator.removals
    rw [List.mem_append, not_or]
    refine ⟨?_, ih _⟩
    split
    · exact Plan.noHit_removals features moment _ state
    · exact List.not_mem_nil

/-- **A check of all features counts no hit.** -/
theorem FeatureOperation.noHit_checkAll (layers : Layers) (moment : Moment)
    (layered : Layered Feature FeatureNotice) (evaluator : Evaluator) (context : Context) :
    .hit id ∉ (FeatureOperation.checkAll evaluator context).history layers moment layered := by
  unfold FeatureOperation.history
  dsimp only
  split
  · exact evaluator.noHit_removalsOfAll _ moment context _ _
  · exact List.not_mem_nil

end Hits

/-! ### What notices tell -/

/-- The events that notices tell of. -/
def FeatureNotice.history (notices : List FeatureNotice) : List UsageEvent := notices.filterMap usageEvent?

theorem FeatureNotice.history_append (early late : List FeatureNotice) :
    history (early ++ late) = history early ++ history late := List.filterMap_append

theorem FeatureNotice.history_reported {α : Type} (notices : List FeatureNotice) (outcome : Except Fault α) :
    history (Notified.reported notices outcome) = Notified.reported (history notices) outcome := by
  cases outcome <;> rfl

/-- **The notices of a call tell what it deletes.** -/
theorem FeatureCall.history_notices (members : List Feature) (call : FeatureCall) :
    FeatureNotice.history (call.notices members) = call.removals := by
  have silent : ∀ {α : Type} (items : List α) (notice : α → FeatureNotice),
      (∀ item, (notice item).usageEvent? = none) → FeatureNotice.history (items.map notice) = [] := by
    intro α items notice none
    refine List.filterMap_eq_nil_iff.mpr fun told listed => ?_
    obtain ⟨item, _, rfl⟩ := List.mem_map.mp listed
    exact none item
  cases call with
  | store call =>
    cases call with
    | save entities =>
      show FeatureNotice.history ((entities.map StoreNotice.updated).map FeatureNotice.store) = []
      rw [List.map_map]
      exact silent entities _ fun _ => rfl
    | _ => rfl
  | setGroupEnabled group enabled => exact silent members _ fun _ => rfl
  | setEnabled | addToGroup | removeFromGroup | hasGroup | readGroup | groups => rfl

namespace Layered

variable {layers : Layers} {before middle after : Layered Feature FeatureNotice}
  {early late : List UsageEvent}

/-- Notices were submitted on the way that tell of given events. -/
def Tells (events : List UsageEvent) (before after : Layered Feature FeatureNotice) : Prop :=
  FeatureNotice.history after.submitted = FeatureNotice.history before.submitted ++ events

theorem Tells.refl (layered : Layered Feature FeatureNotice) : Tells [] layered layered :=
  (List.append_nil _).symm

theorem Tells.trans (first : Tells early before middle) (second : Tells late middle after) :
    Tells (early ++ late) before after := by
  unfold Tells at *
  rw [second, first, List.append_assoc]

/-- What tells of no event, one after the other. -/
theorem Tells.trans_nil (first second third : Layered Feature FeatureNotice) (early : Tells [] first second)
    (late : Tells [] second third) : Tells [] first third := early.trans late

theorem Tells.of_append {notices : List FeatureNotice} (submitted : after.submitted = before.submitted ++ notices) :
    Tells (FeatureNotice.history notices) before after := by
  unfold Tells
  rw [submitted, FeatureNotice.history_append]

variable (notifying : layers.notifying = true)

include notifying

/-- **A call submits notices that tell what it deletes.** -/
theorem tells_call (call : FeatureCall) (moment : Moment) (layered : Layered Feature FeatureNotice) :
    Tells (Notified.reported call.removals ((features layers call).perform moment layered).1) layered
      ((features layers call).perform moment layered).2 := by
  obtain ⟨members, submitted⟩ := submitted_through notifying call moment layered
  rw [← FeatureCall.history_notices members call, ← FeatureNotice.history_reported]
  exact .of_append submitted

/-- A call that deletes nothing submits no notice of an event. -/
theorem tells_nothing {call : FeatureCall} (keeping : call.removals = []) :
    Leads (Tells []) (features layers call) := by
  intro moment layered
  have tells := tells_call notifying call moment layered
  rw [keeping, Notified.reported_nil] at tells
  exact tells

/-- **A plan submits notices that tell what its calls delete.** -/
theorem tells_plan {α : Type} (plan : Plan α) (moment : Moment) (layered : Layered Feature FeatureNotice) :
    Tells (plan.removals (features layers) moment layered) layered
      ((plan.run (features layers)).perform moment layered).2 := by
  induction plan generalizing layered with
  | done outcome =>
    show Tells [] layered ((Act.lift outcome).perform moment layered).2
    rw [perform_lift]
    exact .refl layered
  | ask call next ih =>
    unfold Plan.run Plan.removals
    rw [perform_bind_ok rfl]
    exact (tells_call notifying call moment layered).trans (ih _ _)

/-! ### Evaluations -/

section Evaluations

variable (evaluator : Evaluator) (context : Context)

theorem tells_consult (feature : Feature) (reason : DecisionReason) (strategy : Strategy) (moment : Moment)
    (layered : Layered Feature FeatureNotice) :
    Tells ((strategy.plan feature.id context).removals (features layers) moment layered) layered
      ((Evaluator.consult (features layers) feature context reason strategy).perform moment layered).2 := by
  have tells := tells_plan notifying (strategy.plan feature.id context) moment layered
  unfold Evaluator.consult
  rw [perform_bind]
  cases (((strategy.plan feature.id context).run (features layers)).perform moment layered).1 <;> exact tells

/-- **A decision submits notices that tell what the strategy deletes that is asked.** -/
theorem tells_decide (feature : Feature) (override : Option Strategy) (moment : Moment)
    (layered : Layered Feature FeatureNotice) :
    Tells (evaluator.removals (features layers) moment context feature override layered) layered
      ((evaluator.decide (features layers) feature context override).perform moment layered).2 := by
  unfold Evaluator.removals Evaluator.asked?
  cases barred : feature.barred? context.principal with
  | some reason =>
    rw [Evaluator.decide_of_barred barred]
    exact .refl layered
  | none =>
    cases override with
    | some strategy =>
      rw [Evaluator.decide_override barred]
      exact tells_consult notifying context feature _ strategy moment layered
    | none =>
      cases bound : feature.strategy with
      | none =>
        rw [Evaluator.decide_plain barred bound]
        exact .refl layered
      | some config =>
        rw [Evaluator.decide_bound barred bound, perform_bind, perform_lift]
        rw [Option.bind_some]
        cases created : evaluator.strategies.create config with
        | ok strategy => exact tells_consult notifying context feature _ strategy moment layered
        | error fault => exact .refl layered

omit notifying in
/-- Of an evaluation, the use is reported if the feature is on. -/
theorem history_usage (notifies : evaluator.notifies = true) (id : String) (outcome : Except Fault Decision) :
    FeatureNotice.history (evaluator.usage id context outcome) = Evaluator.hit id outcome := by
  cases outcome with
  | error fault => rfl
  | ok decision =>
    unfold Evaluator.usage Evaluator.hit
    dsimp only
    rw [notifies, Bool.and_true]
    split <;> rfl

/-- **An evaluation submits notices that tell what strategies delete, and then the use of the feature if it is on.** -/
theorem tells_evaluate (notifies : evaluator.notifies = true) (id : String) (override : Option Strategy)
    (moment : Moment) (layered : Layered Feature FeatureNotice) :
    let operation := FeatureOperation.evaluate evaluator id context override
    Tells (operation.history layers moment layered) layered
      ((operation.through layers).perform moment layered).2 := by
  intro operation
  let looked := (features layers (.store (.read id))).perform moment layered
  have read : Tells [] layered looked.2 := tells_nothing notifying rfl moment layered
  unfold operation FeatureOperation.history FeatureOperation.through
  cases reads : ((features layers (.store (.read id))).perform moment layered).1 with
  | ok feature =>
    let decided := (evaluator.decide (features layers) feature context override).perform moment looked.2
    have made : Tells _ looked.2 decided.2 := tells_decide notifying evaluator context feature override moment _
    have used : Tells (Evaluator.hit id decided.1) decided.2 (evaluator.reported id context decided).2 := by
      rw [← history_usage evaluator context notifies id decided.1]
      exact .of_append rfl
    dsimp only
    rw [reads, Evaluator.perform_evaluate reads]
    exact (read.trans made).trans used
  | error fault =>
    have off : Evaluator.hit id ((evaluator.evaluate (features layers) id context override).perform moment
        layered).1 = [] := by
      cases evaluated : ((evaluator.evaluate (features layers) id context override).perform moment layered).1 with
      | error fault => rfl
      | ok decision => exact if_neg (Bool.eq_false_iff.mp (Evaluator.off_of_unread reads evaluated))
    have missing : Leads (Tells []) (Evaluator.createMissing (features layers) id) :=
      Evaluator.createMissing_leads .refl .trans_nil (fun _ keeping => tells_nothing notifying keeping)
        (fun _ => rfl) id
    dsimp only
    rw [reads, off, Evaluator.perform_evaluate_unread reads]
    dsimp only
    split
    · exact read.trans (missing moment looked.2)
    · exact read

/-- **Decisions for features, one after the other**, submit notices that tell what the strategies delete. -/
theorem tells_answers (listed : List Feature) (moment : Moment) (layered : Layered Feature FeatureNotice) :
    Tells (evaluator.removalsOfAll (features layers) moment context listed layered) layered
      ((evaluator.answers (features layers) context listed).perform moment layered).2 := by
  induction listed generalizing layered with
  | nil => exact .refl layered
  | cons feature rest ih =>
    let decided := (evaluator.decide (features layers) feature context none).perform moment layered
    have first : Tells _ layered decided.2 :=
      tells_decide notifying evaluator context feature none moment layered
    have later := first.trans (ih decided.2)
    unfold Evaluator.answers
    rw [perform_bind, perform_attempt]
    dsimp only
    rw [perform_bind]
    -- What is made of the answers leaves the repository alone.
    cases ((evaluator.answers (features layers) context rest).perform moment decided.2).1 with
    | error fault => exact later
    | ok answers => cases decided.1 <;> exact later

theorem tells_checkAll (moment : Moment) (layered : Layered Feature FeatureNotice) :
    let operation := FeatureOperation.checkAll evaluator context
    Tells (operation.history layers moment layered) layered
      ((operation.through layers).perform moment layered).2 := by
  intro operation
  let looked := (features layers (.store .all)).perform moment layered
  have read : Tells [] layered looked.2 := tells_nothing notifying rfl moment layered
  unfold operation FeatureOperation.history FeatureOperation.through Evaluator.checkAll
  dsimp only
  rw [perform_bind]
  cases ((features layers (.store .all)).perform moment layered).1 with
  | error fault => exact read
  | ok listed => exact read.trans (tells_answers notifying evaluator context listed moment looked.2)

end Evaluations

/-! ### Principals -/

/-- **A call of a principal submits notices that tell what it deletes.** -/
theorem tells_secured (principal : Principal) (call : SecuredCall) (moment : Moment)
    (layered : Layered Feature FeatureNotice) :
    let secured := (Secured.handle (features layers) principal call).perform moment layered
    Tells (Notified.reported call.removals secured.1) layered secured.2 := by
  have nothing : ∀ call : FeatureCall, call.removals = [] → Leads (Tells []) (features layers call) :=
    fun _ keeping => tells_nothing notifying keeping
  have authorizing : ∀ id permission,
      Leads (Tells []) (Secured.authorized (features layers) principal id permission) :=
    Secured.authorized_leads .refl .trans_nil nothing (fun _ => rfl) principal
  have keeping : call.removals = [] → Leads (Tells []) (Secured.handle (features layers) principal call) →
      Tells (Notified.reported call.removals
          ((Secured.handle (features layers) principal call).perform moment layered).1) layered
        ((Secured.handle (features layers) principal call).perform moment layered).2 := by
    intro none leads
    rw [none, Notified.reported_nil]
    exact leads moment layered
  cases call with
  | delete id =>
    have first := authorizing id .delete moment layered
    unfold Secured.handle
    dsimp only
    rw [perform_bind]
    cases ((Secured.authorized (features layers) principal id .delete).perform moment layered).1 with
    | error fault => exact first
    | ok feature => exact first.trans (tells_call notifying (.store (.delete id)) moment _)
  | setEnabled id enabled =>
    exact keeping rfl ((authorizing id .toggle).bind .trans_nil fun _ => nothing _ rfl)
  | update feature =>
    refine keeping rfl ((authorizing feature.id .update).bind .trans_nil fun stored => .ite ?_ (nothing _ rfl))
    exact (Leads.lift .refl _).bind .trans_nil fun _ => nothing _ rfl
  | edit id edit =>
    refine keeping rfl ((authorizing id .editPermissions).bind .trans_nil fun feature => ?_)
    exact (Leads.now .refl).bind .trans_nil fun now => nothing _ rfl

/-- **Every operation submits notices that tell just what it counts for the usage**, through layers that notify. -/
theorem tells_operation {operation : FeatureOperation} (notifies : operation.Notifies) (moment : Moment)
    (layered : Layered Feature FeatureNotice) :
    Tells (operation.history layers moment layered) layered
      ((operation.through layers).perform moment layered).2 := by
  cases operation with
  | ask call => exact tells_call notifying call moment layered
  | evaluate evaluator id context override =>
    exact tells_evaluate notifying evaluator context notifies id override moment layered
  | checkAll evaluator context => exact tells_checkAll notifying evaluator context moment layered
  | secured principal call => exact tells_secured notifying principal call moment layered

end Layered

end Switchboard

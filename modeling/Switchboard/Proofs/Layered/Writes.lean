/-
**Calls in layers and on the bare store.**

A call that is not answered from a copy does the same through all layers as on the store itself: the
cache may be settled and notices submitted, but the outcome and the store are those of the bare call.

* `Layered.Over` — a repository in layers and a store by itself that is alike.
* `Layered.features_over`, `Layered.properties_over` — the calls agree on them.
* `Layered.Atomic` — an action that fails leaves the store, the cache and the notices as they were.
* `Layered.features_atomic`, `Layered.properties_atomic` — so do the calls.
-/

import Switchboard.Proofs.Caching.Calls
import Switchboard.Repository.Layered

namespace Switchboard

open Act

variable {E N α : Type}

/-! ### Behind a cache -/

/-- What is behind a cache and a store by itself are alike. -/
def Cached.Over (cached : Cached E (Backend E)) (backend : Backend E) : Prop :=
  Backend.Alike cached.below backend

/-- An action that is answered below agrees with the action below. -/
theorem Caching.Passed.agree {settle : Nat → Cache E → Cache E} {above : Act (Cached E (Backend E)) α}
    {below : Act (Backend E) α} (passed : Passed settle above below)
    (alike : Agree Backend.Alike below below) : Agree Cached.Over above below := by
  intro moment cached backend start
  rw [passed moment cached]
  exact alike moment _ _ start

namespace Caching

section Handlers

variable {C : Type} {Reply : C → Type} {copies : C → Prop}
  {decorated : Handler Reply (Cached E (Backend E))} {plain : Handler Reply (Backend E)}

/-- Calls behind a cache are answered below, except from copies. -/
def PassesOn (copies : C → Prop) (decorated : Handler Reply (Cached E (Backend E)))
    (plain : Handler Reply (Backend E)) : Prop :=
  ∀ call, ¬copies call → ∃ settle, Passed settle (decorated call) (plain call)

theorem PassesOn.agree (passes : PassesOn copies decorated plain)
    (alike : ∀ call, Agree Backend.Alike (plain call) (plain call)) {call : C}
    (answered : ¬copies call) : Agree Cached.Over (decorated call) (plain call) := by
  obtain ⟨settle, passed⟩ := passes call answered
  exact passed.agree (alike call)

theorem passesOn_bypassing (plain : Handler Reply (Backend E)) :
    PassesOn copies (Bypassing.handle plain) plain :=
  fun call _ => ⟨_, passed_under (plain call)⟩

end Handlers

theorem passesOn_features (inner : FeatureHandler (Backend Feature)) :
    PassesOn FeatureCall.FromCopy (features inner) inner :=
  fun _ answered => ⟨_, passed_features inner answered⟩

theorem passesOn_properties (inner : PropertyHandler (Backend Property)) :
    PassesOn PropertyCall.FromCopy (properties inner) inner :=
  fun _ answered => ⟨_, passed_properties inner answered⟩

end Caching

/-! ### Below notices -/

namespace Layered

/-- A repository in layers and a store by itself are alike. -/
def Over (layered : Layered E N) (backend : Backend E) : Prop := Backend.Alike layered.backend backend

theorem under_over {above : Act (Cached E (Backend E)) α} {below : Act (Backend E) α}
    (agree : Agree Cached.Over above below) :
    Agree Over (Notified.under (N := N) above) below :=
  fun moment layered backend alike => agree moment layered.below backend alike

/-- A notice that follows a change is not seen below. -/
theorem noticed_over {above : Act (Cached E (Backend E)) Unit} {below : Act (Backend E) Unit}
    (agree : Agree Cached.Over above below) (notices : List N) :
    Agree Over (do Notified.under above; Notified.submit notices) below := by
  intro moment layered backend alike
  obtain ⟨outcome, after⟩ := under_over agree moment layered backend alike
  rw [perform_bind]
  cases ended : ((Notified.under above).perform moment layered).1 with
  | ok done => exact ⟨ended.symm.trans outcome, after⟩
  | error fault => exact ⟨ended.symm.trans outcome, after⟩

section Store

variable [Entity E]

theorem notifying_store_over (notice : StoreNotice E → N)
    {inner : StoreHandler E (Cached E (Backend E))}
    (agree : ∀ call, ¬call.FromCopy → Agree Cached.Over (inner call) (Backend.handle call))
    {call : StoreCall E} (answered : ¬call.FromCopy) :
    Agree Over (Notifying.store notice inner call) (Backend.handle call) := by
  cases call with
  | find id | read id => exact absurd trivial answered
  | has id => exact under_over (agree _ answered)
  | fetch id => exact under_over (agree _ answered)
  | all => exact under_over (agree _ answered)
  | count => exact under_over (agree _ answered)
  | create entity => exact noticed_over (agree _ answered) _
  | update entity => exact noticed_over (agree _ answered) _
  | delete id => exact noticed_over (agree _ answered) _
  | save entities => exact noticed_over (agree _ answered) _
  | deleteAll => exact noticed_over (agree _ answered) _
  | prepare => exact noticed_over (agree _ answered) _

end Store

/-- A group is listed before it is switched, which the store does by itself as well. -/
theorem setGroupEnabled_over {inner : FeatureHandler (Cached Feature (Backend Feature))}
    (agree : ∀ call, ¬call.FromCopy →
      Agree Cached.Over (inner call) (Repository.features Backend.handle call))
    (group : String) (enabled : Bool) :
    Agree Over (Notifying.features inner (.setGroupEnabled group enabled))
      (Repository.features Backend.handle (.setGroupEnabled group enabled)) := by
  intro moment layered backend alike
  have listing : Agree Over (Notified.under (N := FeatureNotice) (inner (.readGroup group)))
      (Repository.features Backend.handle (.readGroup group)) :=
    under_over (agree (.readGroup group) fun copy => copy)
  obtain ⟨outcome, after⟩ := listing moment layered backend alike
  unfold Notifying.features
  rw [perform_bind]
  cases listed : ((Notified.under (inner (.readGroup group))).perform moment layered).1 with
  | ok members =>
    obtain ⟨store, online⟩ := Backend.alike_readGroup moment backend group
    refine noticed_over (agree (.setGroupEnabled group enabled) fun copy => copy) _ moment _ _ ?_
    exact ⟨after.1.trans store, after.2.trans online⟩
  | error fault =>
    have missing : ((Repository.members Backend.handle group).perform moment backend).1 =
      .error fault := outcome.symm.trans listed
    unfold Repository.features
    rw [perform_bind_error missing]
    exact ⟨rfl, after⟩

/-- A property is fetched after it is set, which succeeds. -/
theorem setValue_over {inner : PropertyHandler (Cached Property (Backend Property))}
    (agree : ∀ call, ¬call.FromCopy →
      Agree Cached.Over (inner call) (Repository.properties Backend.handle call))
    (id raw : String) :
    Agree Over (Notifying.properties inner (.setValue id raw))
      (Repository.properties Backend.handle (.setValue id raw)) := by
  intro moment layered backend alike
  have setting : Agree Over (Notified.under (N := PropertyNotice) (inner (.setValue id raw)))
      (Repository.properties Backend.handle (.setValue id raw)) :=
    under_over (agree (.setValue id raw) fun copy => copy)
  have fetching : Agree Over (Notified.under (N := PropertyNotice) (inner (.store (.fetch id))))
      (Backend.handle (.fetch id)) := under_over (agree (.store (.fetch id)) fun copy => copy)
  obtain ⟨outcome, after⟩ := setting moment layered backend alike
  unfold Notifying.properties
  rw [perform_bind]
  cases ended : ((Notified.under (inner (.setValue id raw))).perform moment layered).1 with
  | error fault => exact ⟨ended.symm.trans outcome, after⟩
  | ok done =>
    obtain ⟨property, fetched⟩ := Backend.fetch_after_setValue (outcome.symm.trans ended)
    obtain ⟨same, unread⟩ := fetching moment _ _ after
    dsimp only
    rw [perform_bind_ok (same.trans fetched)]
    obtain ⟨store, online⟩ := Backend.alike_fetch moment
      ((Repository.properties Backend.handle (.setValue id raw)).perform moment backend).2 id
    exact ⟨ended.symm.trans outcome, unread.1.trans store, unread.2.trans online⟩

theorem notifying_features_over {inner : FeatureHandler (Cached Feature (Backend Feature))}
    (agree : ∀ call, ¬call.FromCopy →
      Agree Cached.Over (inner call) (Repository.features Backend.handle call))
    {call : FeatureCall} (answered : ¬call.FromCopy) :
    Agree Over (Notifying.features inner call) (Repository.features Backend.handle call) := by
  cases call with
  | store call => exact notifying_store_over _ (fun inner => agree (.store inner)) answered
  | setEnabled id enabled => exact noticed_over (agree _ answered) _
  | addToGroup id group => exact noticed_over (agree _ answered) _
  | removeFromGroup id group => exact noticed_over (agree _ answered) _
  | hasGroup group => exact under_over (agree _ answered)
  | readGroup group => exact under_over (agree _ answered)
  | groups => exact under_over (agree _ answered)
  | setGroupEnabled group enabled => exact setGroupEnabled_over agree group enabled

theorem notifying_properties_over {inner : PropertyHandler (Cached Property (Backend Property))}
    (agree : ∀ call, ¬call.FromCopy →
      Agree Cached.Over (inner call) (Repository.properties Backend.handle call))
    {call : PropertyCall} (answered : ¬call.FromCopy) :
    Agree Over (Notifying.properties inner call) (Repository.properties Backend.handle call) := by
  cases call with
  | store call => exact notifying_store_over _ (fun inner => agree (.store inner)) answered
  | setValue id raw => exact setValue_over agree id raw

/-- The handlers above a store, by whether there is a cache. -/
theorem cachedFeatures_passesOn (cached : Bool) :
    Caching.PassesOn FeatureCall.FromCopy
      (if cached then Caching.features (Repository.features Backend.handle)
        else Bypassing.handle (Repository.features Backend.handle))
      (Repository.features Backend.handle) := by
  cases cached with
  | true => exact Caching.passesOn_features _
  | false => exact Caching.passesOn_bypassing _

/-- The handlers above a store, by whether there is a cache. -/
theorem cachedProperties_passesOn (cached : Bool) :
    Caching.PassesOn PropertyCall.FromCopy
      (if cached then Caching.properties (Repository.properties Backend.handle)
        else Bypassing.handle (Repository.properties Backend.handle))
      (Repository.properties Backend.handle) := by
  cases cached with
  | true => exact Caching.passesOn_properties _
  | false => exact Caching.passesOn_bypassing _

/-- **Every call that is not answered from a copy** agrees with the same call on the store. -/
theorem features_over (layers : Layers) {call : FeatureCall} (answered : ¬call.FromCopy) :
    Agree Over (features layers call) (Repository.features Backend.handle call) := by
  have agree := fun (call : FeatureCall) (answered : ¬call.FromCopy) =>
    (cachedFeatures_passesOn layers.cached).agree (Repository.features_agree Backend.handle_alike)
      answered
  unfold features
  split
  · exact notifying_features_over agree answered
  · exact under_over (agree call answered)

/-- **Every call that is not answered from a copy** agrees with the same call on the store. -/
theorem properties_over (layers : Layers) {call : PropertyCall} (answered : ¬call.FromCopy) :
    Agree Over (properties layers call) (Repository.properties Backend.handle call) := by
  have agree := fun (call : PropertyCall) (answered : ¬call.FromCopy) =>
    (cachedProperties_passesOn layers.cached).agree (Repository.properties_agree Backend.handle_alike)
      answered
  unfold properties
  split
  · exact notifying_properties_over agree answered
  · exact under_over (agree call answered)

/-! ### Failures -/

/-- The store and whether it is online, the cache and the notices are the same. -/
def Untouched (before after : Layered E N) : Prop :=
  Backend.Alike after.backend before.backend ∧ after.cache = before.cache ∧
    after.submitted = before.submitted

theorem Untouched.refl (layered : Layered E N) : Untouched layered layered := ⟨⟨rfl, rfl⟩, rfl, rfl⟩

theorem Untouched.trans {first second third : Layered E N} (early : Untouched first second)
    (late : Untouched second third) : Untouched first third :=
  ⟨⟨late.1.1.trans early.1.1, late.1.2.trans early.1.2⟩, late.2.1.trans early.2.1,
    late.2.2.trans early.2.2⟩

/-- An action that fails leaves everything as it was. -/
def Atomic (action : Act (Layered E N) α) : Prop :=
  ∀ moment layered fault, (action.perform moment layered).1 = .error fault →
    Untouched layered (action.perform moment layered).2

/-- What is atomic stays so after an action that leaves everything as it was. -/
theorem Atomic.after {β : Type} {first : Act (Layered E N) α} {next : α → Act (Layered E N) β}
    (reads : ∀ moment layered, Untouched layered (first.perform moment layered).2)
    (atomic : ∀ value, Atomic (next value)) : Atomic (first >>= next) := by
  intro moment layered fault fails
  rw [perform_bind] at fails ⊢
  cases outcome : (first.perform moment layered).1 with
  | ok value =>
    rw [outcome] at fails
    exact (reads moment layered).trans (atomic value moment _ fault fails)
  | error other => exact reads moment layered

section Passed

variable {settle : Nat → Cache E → Cache E} {above : Act (Cached E (Backend E)) α}
  {below : Act (Backend E) α}

theorem under_atomic (passed : Caching.Passed settle above below)
    (atomic : ∀ moment backend fault, (below.perform moment backend).1 = .error fault →
      Backend.Alike (below.perform moment backend).2 backend) :
    Atomic (N := N) (Notified.under above) := by
  intro moment layered fault fails
  have failed : (below.perform moment layered.backend).1 = .error fault := by
    rw [← fails]
    exact (congrArg Prod.fst (passed moment layered.below)).symm
  show Untouched layered { layered with below := (above.perform moment layered.below).2 }
  rw [passed moment layered.below]
  refine ⟨atomic moment _ fault failed, ?_, rfl⟩
  show Caching.settledBy _ _ (below.perform moment layered.backend).1 = _
  rw [failed]
  rfl

theorem noticed_atomic {above : Act (Cached E (Backend E)) Unit}
    (atomic : Atomic (N := N) (Notified.under above)) (notices : List N) :
    Atomic (do Notified.under above; Notified.submit notices) := by
  intro moment layered fault fails
  rw [perform_bind] at fails ⊢
  cases outcome : ((Notified.under above).perform moment layered).1 with
  | ok done =>
    rw [outcome] at fails
    cases fails
  | error other => exact atomic moment layered other outcome

end Passed

/-- What leaves the store as it was leaves everything as it was. -/
theorem direct_untouched {action : Act (Backend E) α}
    (alike : ∀ moment backend, Backend.Alike (action.perform moment backend).2 backend)
    (moment : Moment) (layered : Layered E N) :
    Untouched layered ((direct action).perform moment layered).2 :=
  ⟨alike moment layered.backend, rfl, rfl⟩

theorem fetch_untouched (layers : Layers) (id : String) (moment : Moment)
    (layered : Layered Feature FeatureNotice) :
    Untouched layered ((features layers (.store (.fetch id))).perform moment layered).2 := by
  have bare : features layers (.store (.fetch id)) = direct (Backend.handle (.fetch id)) := by
    rcases layers with ⟨_ | _, _ | _⟩ <;> rfl
  rw [bare]
  exact direct_untouched (fun moment backend => Backend.alike_fetch moment backend id) moment layered

/-- The calls that every repository answers are atomic above notices if they are below. -/
theorem store_atomic [Entity E] (notice : StoreNotice E → N) {inner : StoreHandler E (Cached E (Backend E))}
    (passing : ∀ call, ¬call.FromCopy → Atomic (N := N) (Notified.under (inner call)))
    {call : StoreCall E} (answered : ¬call.FromCopy) : Atomic (Notifying.store notice inner call) := by
  cases call with
  | find id | read id => exact absurd trivial answered
  | has id => exact passing _ answered
  | fetch id => exact passing _ answered
  | all => exact passing _ answered
  | count => exact passing _ answered
  | create entity => exact noticed_atomic (passing _ answered) _
  | update entity => exact noticed_atomic (passing _ answered) _
  | delete id => exact noticed_atomic (passing _ answered) _
  | save entities => exact noticed_atomic (passing _ answered) _
  | deleteAll => exact noticed_atomic (passing _ answered) _
  | prepare => exact noticed_atomic (passing _ answered) _

/-- **A call that is not answered from a copy leaves everything as it was if it fails.** -/
theorem features_atomic (layers : Layers) {call : FeatureCall} (answered : ¬call.FromCopy) :
    Atomic (features layers call) := by
  have passing : ∀ call : FeatureCall, ¬call.FromCopy → Atomic (N := FeatureNotice)
      (Notified.under ((if layers.cached then Caching.features (Repository.features Backend.handle)
        else Bypassing.handle (Repository.features Backend.handle)) call)) := by
    intro call answered
    obtain ⟨settle, passed⟩ := cachedFeatures_passesOn layers.cached call answered
    exact under_atomic passed fun moment backend fault fails =>
      ⟨Backend.features_orderly.error call moment backend fault fails,
        Backend.features_answers.online_perform call moment backend⟩
  unfold features
  split
  · cases call with
    | store call => exact store_atomic _ (fun inner => passing (.store inner)) answered
    | hasGroup group => exact passing _ answered
    | readGroup group => exact passing _ answered
    | groups => exact passing _ answered
    | setEnabled id enabled => exact noticed_atomic (passing _ answered) _
    | addToGroup id group => exact noticed_atomic (passing _ answered) _
    | removeFromGroup id group => exact noticed_atomic (passing _ answered) _
    | setGroupEnabled group enabled =>
      refine Atomic.after ?_ fun members => noticed_atomic (passing _ answered) _
      have reads := direct_untouched (N := FeatureNotice) fun moment backend =>
        Backend.alike_readGroup moment backend group
      cases layers.cached <;> exact reads
  · exact passing call answered

/-- A value that was set is read back for its notice. That can fail only if the setting did: a property that was
set is there. -/
theorem setValue_atomic {inner : PropertyHandler (Cached Property (Backend Property))}
    (agree : ∀ call, ¬call.FromCopy →
      Agree Cached.Over (inner call) (Repository.properties Backend.handle call))
    (id raw : String) (passing : Atomic (N := PropertyNotice) (Notified.under (inner (.setValue id raw)))) :
    Atomic (Notifying.properties inner (.setValue id raw)) := by
  intro moment layered fault fails
  have alike : Over layered layered.backend := ⟨rfl, rfl⟩
  have whole := (setValue_over agree id raw moment layered _ alike).1
  have setting := (under_over (N := PropertyNotice) (agree (.setValue id raw) fun copy => copy) moment
    layered _ alike).1
  have failed : ((Notified.under (inner (.setValue id raw))).perform moment layered).1 = .error fault := by
    rw [setting, ← whole, fails]
  unfold Notifying.properties
  rw [perform_bind_error failed]
  exact passing moment layered fault failed

/-- **A call that is not answered from a copy leaves everything as it was if it fails.** -/
theorem properties_atomic (layers : Layers) {call : PropertyCall} (answered : ¬call.FromCopy) :
    Atomic (properties layers call) := by
  have passes := cachedProperties_passesOn layers.cached
  have passing : ∀ call : PropertyCall, ¬call.FromCopy → Atomic (N := PropertyNotice)
      (Notified.under ((if layers.cached then Caching.properties (Repository.properties Backend.handle)
        else Bypassing.handle (Repository.properties Backend.handle)) call)) := by
    intro call answered
    obtain ⟨settle, passed⟩ := passes call answered
    exact under_atomic passed fun moment backend fault fails =>
      ⟨Backend.properties_orderly.error call moment backend fault fails,
        Backend.properties_answers.online_perform call moment backend⟩
  unfold properties
  split
  · cases call with
    | store call => exact store_atomic _ (fun inner => passing (.store inner)) answered
    | setValue id raw =>
      have agree := fun (call : PropertyCall) (answered : ¬call.FromCopy) =>
        passes.agree (Repository.properties_agree Backend.handle_alike) answered
      exact setValue_atomic agree id raw (passing _ answered)
  · exact passing call answered

end Layered

end Switchboard

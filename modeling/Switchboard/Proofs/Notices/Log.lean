/-
**The log of notices is complete and exact.**

* `FeatureOperation`, `LogStep`, `Layered.runSteps` — what happens to a repository: calls, evaluations, checks
  and calls of principals, while its cache comes to hold anything and its store goes offline and comes back.
* `Layered.operation_leads` — what every call and every use leads to, every operation leads to.
* `Layered.told_run` — every run is told; `Layered.log_is_complete_and_exact` — this and what single
  operations submit.
-/

import Switchboard.Proofs.Notices.Told
import Switchboard.Proofs.Secured.Calls

namespace Switchboard

open Act

/-! ### What happens to a repository -/

/-- An operation on features: a call of the repository, an evaluation, a check of all features, or a call of a
principal. -/
inductive FeatureOperation where
  | ask (call : FeatureCall)
  | evaluate (evaluator : Evaluator) (id : String) (context : Context) (override : Option Strategy)
  | checkAll (evaluator : Evaluator) (context : Context)
  | secured (principal : Principal) (call : SecuredCall)

/-- The type of the reply to an operation. -/
abbrev FeatureOperation.Reply : FeatureOperation → Type
  | ask call => call.Reply
  | evaluate _ _ _ _ => Decision
  | checkAll _ _ => Table Bool
  | secured _ _ => Unit

/-- The operations on features, made at the top of all layers. -/
def FeatureOperation.handle : Handler FeatureOperation.Reply (Layered Feature FeatureNotice)
  | .ask call => Layered.features Layered.allLayers call
  | .evaluate evaluator id context override =>
    evaluator.evaluate (Layered.features Layered.allLayers) id context override
  | .checkAll evaluator context => evaluator.checkAll (Layered.features Layered.allLayers) context
  | .secured principal call => Secured.handle (Layered.features Layered.allLayers) principal call

/-- The operations on features, made through given layers. -/
def FeatureOperation.through (layers : Layers) :
    Handler FeatureOperation.Reply (Layered Feature FeatureNotice)
  | .ask call => Layered.features layers call
  | .evaluate evaluator id context override =>
    evaluator.evaluate (Layered.features layers) id context override
  | .checkAll evaluator context => evaluator.checkAll (Layered.features layers) context
  | .secured principal call => Secured.handle (Layered.features layers) principal call

/-- Through all layers, they are made at the top. -/
theorem FeatureOperation.through_allLayers : through Layered.allLayers = handle := by
  funext operation
  cases operation <;> rfl

/-- What happens to a repository: an operation, its cache coming to hold anything, and its store going offline
or online. -/
inductive LogStep (C E : Type) where
  | operation (moment : Moment) (operation : C)
  | recache (cache : Cache E)
  | setOnline (online : Bool)

namespace Layered

section Runs

variable {E N C : Type} {Reply : C → Type} (handle : Handler Reply (Layered E N))

/-- The repository after a step. -/
def step (layered : Layered E N) : LogStep C E → Layered E N
  | .operation moment operation => ((handle operation).perform moment layered).2
  | .recache cache => { layered with below := { layered.below with cache } }
  | .setOnline online =>
    { layered with below := { layered.below with below := { layered.backend with online } } }

/-- The repository after steps, one after the other. -/
def runSteps (layered : Layered E N) (steps : List (LogStep C E)) : Layered E N :=
  steps.foldl (step handle) layered

variable {handle}

/-- **What the operations of a run tell, the run tells.** -/
theorem told_run [Entity E] {replay : Store E → N → Store E}
    (keeps : ∀ {first second : Store E}, first.SameButStamps second → ∀ notice,
      (replay first notice).SameButStamps (replay second notice))
    (told : ∀ operation, Leads (Told replay) (handle operation)) (layered : Layered E N)
    (steps : List (LogStep C E)) : Told replay layered (runSteps handle layered steps) := by
  induction steps generalizing layered with
  | nil => exact .refl layered
  | cons next rest ih =>
    refine Told.trans keeps _ _ _ ?_ (ih (step handle layered next))
    cases next with
    | operation moment operation => exact told operation moment layered
    | recache cache => exact .of_same rfl rfl
    | setOnline online => exact .of_same rfl rfl

end Runs

/-- Nothing is excluded of what strategies may ask. -/
theorem asks_anything {α : Type} (plan : Plan α) : plan.Asks fun _ => True := by
  induction plan with
  | done outcome => trivial
  | ask call next ih => exact ⟨trivial, ih⟩

/-- The use of a feature changes nothing. -/
theorem told_used (id : String) (context : Context) :
    Leads (Told (E := Feature) FeatureNotice.replay) (Notified.submit [.used id context]) :=
  fun _ _ keyed => ⟨keyed, [.used id context], rfl, .refl _⟩

/-- **What every call and every use leads to, every operation leads to.** -/
theorem operation_leads {layers : Layers}
    {related : Layered Feature FeatureNotice → Layered Feature FeatureNotice → Prop}
    (refl : ∀ layered, related layered layered)
    (trans : ∀ first second third, related first second → related second third → related first third)
    (leads : ∀ call, Leads related (features layers call))
    (used : ∀ id context, Leads related (Notified.submit [.used id context])) (operation : FeatureOperation) :
    Leads related (FeatureOperation.through layers operation) := by
  have every : ∀ call, True → Leads related (features layers call) := fun call _ => leads call
  have asks : ∀ evaluator : Evaluator, evaluator.Asks fun _ => True :=
    fun _ _ _ _ _ _ => asks_anything _
  cases operation with
  | ask call => exact leads call
  | evaluate evaluator id context override =>
    exact Evaluator.evaluate_leads refl trans every (asks evaluator) (fun _ _ _ _ => asks_anything _)
      (fun _ => trivial) used (fun _ => trivial) id context
  | checkAll evaluator context =>
    exact Evaluator.checkAll_leads refl trans every (asks evaluator) trivial context
  | secured principal call =>
    exact Secured.handle_leads refl trans every (fun _ => trivial) (fun _ _ => trivial)
      (fun _ => trivial) (fun _ => trivial) principal call

theorem told_operation (operation : FeatureOperation) :
    Leads (Told FeatureNotice.replay) operation.handle := by
  rw [← FeatureOperation.through_allLayers]
  exact operation_leads Told.refl (Told.trans Store.same_replayFeature) told_features told_used operation

/-! ### Operations that submit nothing -/

/-- No notice was submitted on the way. -/
def Quietly {E N : Type} (before after : Layered E N) : Prop := after.submitted = before.submitted

theorem Quietly.refl {E N : Type} (layered : Layered E N) : Quietly layered layered := rfl

theorem Quietly.trans {E N : Type} (first second third : Layered E N) (early : Quietly first second)
    (late : Quietly second third) : Quietly first third := Eq.trans late early

end Layered

/-- A call is a read. -/
def FeatureCall.IsRead (call : FeatureCall) : Prop := call.isWrite = false

/-- The strategies that an operation may consult only read features. -/
def FeatureOperation.ConsultsReaders : FeatureOperation → Prop
  | evaluate evaluator _ _ override => evaluator.Asks FeatureCall.IsRead ∧
      ∀ strategy, override = some strategy → strategy.Asks FeatureCall.IsRead
  | checkAll evaluator _ => evaluator.Asks FeatureCall.IsRead
  | ask _ | secured _ _ => True

namespace Layered

/-- **A read submits nothing.** -/
theorem quietly_read (call : FeatureCall) (read : call.IsRead) :
    Leads Quietly (features allLayers call) := by
  intro moment layered
  unfold Quietly
  rw [submitted_features, FeatureCall.notices_of_read read, Notified.reported_nil, List.append_nil]

/-- **A call that fails submits nothing.** -/
theorem quietly_failed (call : FeatureCall) : FailsTo Quietly (features allLayers call) := by
  intro moment layered fault fails
  unfold Quietly
  rw [submitted_features, fails]
  exact List.append_nil _

/-- **An operation that fails submits nothing**, as long as strategies only read. -/
theorem quietly_operation {operation : FeatureOperation} (readers : operation.ConsultsReaders) :
    FailsTo Quietly operation.handle := by
  cases operation with
  | ask call => exact quietly_failed call
  | evaluate evaluator id context override =>
    exact Evaluator.evaluate_failsTo Quietly.refl Quietly.trans quietly_read readers.1 readers.2
      (fun _ => rfl) (fun _ => quietly_failed _) id context
  | checkAll evaluator context =>
    exact .of_leads (Evaluator.checkAll_leads Quietly.refl Quietly.trans quietly_read readers rfl context)
  | secured principal call =>
    exact fun moment layered fault fails =>
      (Secured.atomic allLayers principal call moment layered fault fails).2.2

end Layered

/-! ### The whole log -/

namespace Layered

/-- What operations on features submit in a state. -/
structure Exact (layered : Layered Feature FeatureNotice) : Prop where
  /-- A call submits its notices if it succeeds, and nothing if it fails. -/
  calls : ∀ moment (call : FeatureCall),
    ((features allLayers call).perform moment layered).2.submitted = layered.submitted ++
      Notified.reported (call.notices (call.listed layered.backend.store))
        ((features allLayers call).perform moment layered).1
  /-- A read submits nothing. -/
  reads : ∀ moment (call : FeatureCall), call.IsRead →
    ((features allLayers call).perform moment layered).2.submitted = layered.submitted
  /-- An operation that fails submits nothing. -/
  failures : ∀ moment (operation : FeatureOperation) fault, operation.ConsultsReaders →
    (operation.handle.perform moment layered).1 = .error fault →
      (operation.handle.perform moment layered).2.submitted = layered.submitted
  /-- A group that is switched submits one notice for each of its members, in the order of identifiers. -/
  groups : ∀ moment group enabled,
    ((features allLayers (.setGroupEnabled group enabled)).perform moment layered).1 = .ok () →
      ∃ members : List Feature,
        ((features allLayers (.setGroupEnabled group enabled)).perform moment layered).2.submitted =
          layered.submitted ++ members.map (fun member => .toggled member.id enabled) ∧
        members.Pairwise (fun first second => first.id < second.id) ∧
        ∀ feature, feature ∈ members ↔
          layered.backend.store.find? feature.id = some feature ∧ feature.group = some group

/-- What calls of properties submit in a state. -/
structure ExactValues (layered : Layered Property PropertyNotice) : Prop where
  /-- A call submits its notices if it succeeds, and nothing if it fails. -/
  calls : ∀ moment (call : PropertyCall),
    ((properties allLayers call).perform moment layered).2.submitted = layered.submitted ++
      Notified.reported
        (call.notices (call.kept ((properties allLayers call).perform moment layered).2.backend.store))
        ((properties allLayers call).perform moment layered).1
  /-- A read submits nothing. -/
  reads : ∀ moment (call : PropertyCall), call.isWrite = false →
    ((properties allLayers call).perform moment layered).2.submitted = layered.submitted
  /-- A call that fails submits nothing. -/
  failures : ∀ moment (call : PropertyCall) fault,
    ((properties allLayers call).perform moment layered).1 = .error fault →
      ((properties allLayers call).perform moment layered).2.submitted = layered.submitted

theorem exact_of_keyed {layered : Layered Feature FeatureNotice} (keyed : layered.backend.store.Keyed) :
    Exact layered where
  calls moment call := submitted_features moment layered call
  reads moment call read := quietly_read call read moment layered
  failures moment operation fault readers fails := quietly_operation readers moment layered fault fails
  groups moment group enabled succeeds := by
    have submitted := submitted_features moment layered (.setGroupEnabled group enabled)
    rw [succeeds] at submitted
    refine ⟨_, submitted, keyed.sorted.sublist List.filter_sublist, fun feature => ?_⟩
    unfold FeatureCall.listed
    rw [List.mem_filter]
    refine and_congr ⟨keyed.find?_of_mem, fun stored => Store.mem_toList.mpr ⟨_, stored⟩⟩ ?_
    exact beq_iff_eq

theorem exactValues (layered : Layered Property PropertyNotice) : ExactValues layered where
  calls moment call := submitted_properties moment layered call
  reads moment call read := by
    rw [submitted_properties, PropertyCall.notices_of_read read, Notified.reported_nil, List.append_nil]
  failures moment call fault fails := by
    rw [submitted_properties, fails]
    exact List.append_nil _

/-- **The log of notices is complete and exact.** After any steps from a keyed store, the notices submitted on
the way, replayed in order on the store as it was, give the store as it is, but for the timestamps of its
entities. Reads and operations that fail submit nothing, every other call its own notices, and a group that
is switched one for each member, in the order of identifiers, whatever the cache holds. -/
theorem log_is_complete_and_exact {switches : Layered Feature FeatureNotice}
    {values : Layered Property PropertyNotice} (keyedSwitches : switches.backend.store.Keyed)
    (keyedValues : values.backend.store.Keyed) (steps : List (LogStep FeatureOperation Feature))
    (changes : List (LogStep PropertyCall Property)) :
    let after := runSteps FeatureOperation.handle switches steps
    let changed := runSteps (properties allLayers) values changes
    (∃ notices, after.submitted = switches.submitted ++ notices ∧
        (notices.foldl FeatureNotice.replay switches.backend.store).SameButStamps after.backend.store) ∧
      (∃ notices, changed.submitted = values.submitted ++ notices ∧
        (notices.foldl StoreNotice.replay values.backend.store).SameButStamps changed.backend.store) ∧
      Exact after ∧ ExactValues changed := by
  obtain ⟨keyed, told⟩ := told_run Store.same_replayFeature told_operation switches steps keyedSwitches
  obtain ⟨_, toldValues⟩ := told_run Store.same_replay told_properties values changes keyedValues
  exact ⟨told, toldValues, exact_of_keyed keyed, exactValues _⟩

/-- Two lamps are saved, one of them twice; the store goes offline and comes back; then their group is switched
on while the cache holds nothing. A limit is set. -/
theorem log_of_lamps :
    let lamp := { Feature.new "lamp" .epoch with group := some "light" }
    let spare := { Feature.new "spare" .epoch with group := some "light" }
    let limit := Property.new "limit" (.text "1") .epoch
    let switches : Layered Feature FeatureNotice := Layered.new .empty 10 4 (fun _ => 0)
    let values : Layered Property PropertyNotice := Layered.new (Store.empty.insert limit) 10 4 (fun _ => 0)
    let steps : List (LogStep FeatureOperation Feature) :=
      [.operation ⟨1, .epoch⟩ (.ask (.store (.save [spare, lamp, lamp]))),
        .setOnline false, .operation ⟨2, .epoch⟩ (.ask (.setEnabled "lamp" true)), .setOnline true,
        .recache (Cache.new 10 4 (fun _ => 0)), .operation ⟨3, .epoch⟩ (.ask (.setGroupEnabled "light" true))]
    let changes : List (LogStep PropertyCall Property) :=
      [.operation ⟨1, .epoch⟩ (.setValue "limit" "2")]
    let after := runSteps FeatureOperation.handle switches steps
    let changed := runSteps (properties allLayers) values changes
    switches.backend.store.Keyed ∧ values.backend.store.Keyed ∧
      after.submitted = [.store (.updated spare), .store (.updated lamp), .store (.updated lamp),
        .toggled "lamp" true, .toggled "spare" true] ∧
      (after.submitted.foldl FeatureNotice.replay .empty).SameButStamps after.backend.store ∧
      changed.submitted = [.updated { limit with value := .text "2" }] ∧
      (changed.submitted.foldl StoreNotice.replay (Store.empty.insert limit)).SameButStamps
        changed.backend.store ∧ Exact after ∧ ExactValues changed := by
  intro lamp spare limit switches values steps changes after changed
  have keyedSwitches : switches.backend.store.Keyed := Store.keyed_empty
  have keyedValues : values.backend.store.Keyed := Store.keyed_empty.insert limit
  obtain ⟨⟨notices, submitted, told⟩, ⟨others, submittedValues, toldValues⟩, exactSwitches, exactLimit⟩ :=
    log_is_complete_and_exact keyedSwitches keyedValues steps changes
  refine ⟨keyedSwitches, keyedValues, ?_, ?_, ?_, ?_, exactSwitches, exactLimit⟩
  · dsimp only [after, steps, switches, lamp, spare]
    rfl
  · rw [submitted]
    exact told
  · dsimp only [changed, changes, values, limit]
    rfl
  · rw [submittedValues]
    exact toldValues

end Layered

end Switchboard

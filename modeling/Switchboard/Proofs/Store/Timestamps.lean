/-
**The order of timestamps.**

An entity is in order if it was last updated no earlier than it was created. Every change of a stored
entity stamps it so that it is; a new entity is kept as it was given.

* `FeatureCall.given`, `PropertyCall.given` — the entities that a call gives to be kept as they are.
* `Store.Dated` — whatever is kept is in order, or one of the entities that were given.
* `Store.dated_features`, `Store.dated_properties` — what one call keeps of this; `Handler.run_keeps` — and
  so do runs of calls.
* `Store.kept_in_order_or_as_given` — after any calls at any times every stored entity is in order, or
  exactly as it was given; `Store.given_out_of_order` — and it can be given out of order.
-/

import Switchboard.Proofs.Repository.Content

namespace Switchboard

/-! ### Entities in order -/

/-- An entity was last updated no earlier than it was created. -/
def Entity.InOrder {E : Type} [Entity E] (entity : E) : Prop :=
  Entity.createdAt entity ≤ Entity.updatedAt entity

section InOrder

variable {E : Type} [Entity E]

/-- **Whatever the times are, a stamped entity is in order.** -/
theorem Entity.inOrder_stamp (entity : E) (created updated : Time.Instant) :
    Entity.InOrder (Entity.stamp entity created updated) := by
  unfold Entity.InOrder
  rw [Entity.createdAt_stamp, Entity.updatedAt_stamp]
  exact Time.Instant.le_max_right updated created

theorem Entity.inOrder_touched (now : Time.Instant) (entity : E) :
    Entity.InOrder (Entity.touched now entity) := Entity.inOrder_stamp _ _ _

theorem Store.inOrder_restamp (now : Time.Instant) (entity previous : E) :
    Entity.InOrder (Store.restamp now entity previous) := Entity.inOrder_stamp _ _ _

end InOrder

/-! ### What is given -/

/-- The entities that a call gives to be kept as they are. -/
def StoreCall.given {E : Type} : StoreCall E → List E
  | create entity => [entity]
  | save entities => entities
  | has _ | find _ | read _ | fetch _ | all | update _ | delete _ | deleteAll | count | prepare => []

/-- The features that a call gives to be kept as they are. -/
def FeatureCall.given : FeatureCall → List Feature
  | store call => call.given
  | setEnabled _ _ | addToGroup _ _ | removeFromGroup _ _ | hasGroup _ | readGroup _ | groups
  | setGroupEnabled _ _ => []

/-- The properties that a call gives to be kept as they are. -/
def PropertyCall.given : PropertyCall → List Property
  | store call => call.given
  | setValue _ _ => []

/-! ### Stores of entities in order -/

namespace Store

section Dated

variable {E : Type} [Entity E] {given : E → Prop} {store : Store E}

/-- Whatever is kept is in order, or was given as it is. -/
def Dated (given : E → Prop) (store : Store E) : Prop :=
  ∀ id entity, store.find? id = some entity → Entity.InOrder entity ∨ given entity

theorem dated_empty : (empty : Store E).Dated given := by
  intro id entity found
  have missing : (empty : Store E).find? id = none := Std.ExtTreeMap.getElem?_empty
  rw [missing] at found
  cases found

theorem Dated.insert (dated : store.Dated given) {entity : E}
    (admitted : Entity.InOrder entity ∨ given entity) : (store.insert entity).Dated given := by
  intro id other found
  rw [find?_insert] at found
  split at found
  · cases found
    exact admitted
  · exact dated id other found

theorem Dated.erase (dated : store.Dated given) (target : String) :
    Dated given (⟨store.entities.erase target⟩ : Store E) := by
  intro id entity found
  have kept : (store.entities.erase target)[id]? = some entity := found
  rw [Table.getElem?_erase_eq] at kept
  split at kept
  · cases kept
  · exact dated id entity kept

theorem Dated.upsert (dated : store.Dated given) (now : Time.Instant) {entity : E}
    (admitted : Entity.InOrder entity ∨ given entity) : (upsert now store entity).Dated given := by
  unfold Store.upsert
  split
  next previous _ => exact dated.insert (.inl (inOrder_restamp now entity previous))
  · exact dated.insert admitted

theorem Dated.upsertAll (dated : store.Dated given) (now : Time.Instant) {entities : List E}
    (admitted : ∀ entity ∈ entities, Entity.InOrder entity ∨ given entity) :
    (entities.foldl (Store.upsert now) store).Dated given := by
  induction entities generalizing store with
  | nil => exact dated
  | cons entity rest ih =>
    have first := dated.upsert now (admitted entity List.mem_cons_self)
    exact ih first fun other listed => admitted other (List.mem_cons_of_mem _ listed)

/-- A store that is made from a list keeps what was given. -/
theorem dated_ofList {entities : List E} (made : ofList entities = .ok store)
    (listed : ∀ entity ∈ entities, given entity) : store.Dated given := by
  obtain ⟨table, folded, whole⟩ := Outcome.bind_eq_ok.mp made
  cases whole
  refine Outcome.foldlM_keeps (fun table => Dated (E := E) given ⟨table⟩) ?_ dated_empty folded
  intro before entity after member dated added
  obtain ⟨_, _, admitted⟩ := Outcome.bind_eq_ok.mp added
  split at admitted
  · cases admitted
  · cases admitted
    exact Dated.insert dated (.inr (listed entity member))

/-! ### Calls -/

variable {moment : Moment}

/-- **Every call of a store** keeps what it is given and stamps what it replaces. -/
theorem dated_handle (dated : store.Dated given) {call : StoreCall E}
    (listed : ∀ entity ∈ call.given, given entity) :
    ((handle call).perform moment store).2.Dated given := by
  cases call with
  | create entity =>
    refine changing_keeps (Dated given) dated fun changed succeeds => ?_
    obtain ⟨_, _, rfl⟩ := create_eq_ok succeeds
    exact dated.insert (.inr (listed entity List.mem_cons_self))
  | update entity =>
    refine changing_keeps (Dated given) dated fun changed succeeds => ?_
    obtain ⟨_, previous, _, rfl⟩ := update_eq_ok succeeds
    exact dated.insert (.inl (inOrder_restamp moment.wall entity previous))
  | delete id =>
    refine changing_keeps (Dated given) dated fun changed succeeds => ?_
    obtain ⟨_, rfl⟩ := delete_eq_ok succeeds
    exact dated.erase id
  | save entities =>
    refine changing_keeps (Dated given) dated fun changed succeeds => ?_
    obtain ⟨_, rfl⟩ := save_eq_ok succeeds
    exact dated.upsertAll moment.wall fun entity batched => .inr (listed entity batched)
  | deleteAll => exact dated_empty
  | read id | fetch id =>
    simp only [handle, Act.perform_bind, Act.perform_get, Act.perform_lift]
    exact dated
  | has id | find id | all | count | prepare => exact dated

/-- A change of one entity stamps it. -/
theorem dated_changing (dated : store.Dated given) (id : String)
    (change : E → Time.Instant → Except Fault E) :
    ((Repository.changing handle id change).perform moment store).2.Dated given := by
  rcases Repository.changing_cases moment store id change with
    ⟨fault, fails⟩ | ⟨entity, changed, _, _, previous, _, succeeds⟩
  · rw [fails]
    exact dated
  · rw [succeeds]
    exact dated.insert (.inl (inOrder_restamp moment.wall changed previous))

end Dated

/-- **Every call of features** keeps what it is given and stamps what it replaces. -/
theorem dated_features {given : Feature → Prop} {store : Store Feature} {moment : Moment}
    (dated : store.Dated given) {call : FeatureCall} (listed : ∀ feature ∈ call.given, given feature) :
    ((Repository.features handle call).perform moment store).2.Dated given := by
  cases call with
  | store call => exact dated_handle dated listed
  | setEnabled id _ | removeFromGroup id _ => exact dated_changing dated id _
  | addToGroup id group =>
    unfold Repository.features
    rw [Act.perform_bind, Act.perform_lift]
    cases checkIdentifier group with
    | error fault => exact dated
    | ok done => exact dated_changing dated id _
  | setGroupEnabled group enabled =>
    rcases Repository.setGroupEnabled_cases moment store group enabled with ⟨fault, fails⟩ | succeeds
    · rw [fails]
      exact dated
    · rw [succeeds]
      refine dated.upsertAll moment.wall fun member switched => .inl ?_
      obtain ⟨feature, _, rfl⟩ := List.mem_map.mp switched
      exact Entity.inOrder_touched moment.wall { feature with enabled }
  | readGroup group =>
    rw [Repository.perform_readGroup_snd]
    exact dated
  | hasGroup _ | groups => exact dated

/-- **Every call of properties** keeps what it is given and stamps what it replaces. -/
theorem dated_properties {given : Property → Prop} {store : Store Property} {moment : Moment}
    (dated : store.Dated given) {call : PropertyCall}
    (listed : ∀ property ∈ call.given, given property) :
    ((Repository.properties handle call).perform moment store).2.Dated given := by
  cases call with
  | store call => exact dated_handle dated listed
  | setValue id raw => exact dated_changing dated id _

end Store

/-! ### Runs -/

namespace Handler

variable {C σ : Type} {Reply : C → Type} {handler : Handler Reply σ}

/-- The state after calls, one after the other, each at its moment. -/
def run (handler : Handler Reply σ) (state : σ) (calls : List (Moment × C)) : σ :=
  calls.foldl (fun state (moment, call) => ((handler call).perform moment state).2) state

theorem run_append (handler : Handler Reply σ) (state : σ) (earlier later : List (Moment × C)) :
    handler.run state (earlier ++ later) = handler.run (handler.run state earlier) later :=
  List.foldl_append

/-- **What every call of a run keeps, the run keeps.** -/
theorem run_keeps (kept : σ → Prop) {calls : List (Moment × C)}
    (keeps : ∀ moment call, (moment, call) ∈ calls → ∀ state, kept state →
      kept ((handler call).perform moment state).2)
    {state : σ} (start : kept state) : kept (handler.run state calls) := by
  induction calls generalizing state with
  | nil => exact start
  | cons first rest ih =>
    obtain ⟨moment, call⟩ := first
    refine ih (fun moment call listed => keeps moment call (List.mem_cons_of_mem _ listed)) ?_
    exact keeps moment call List.mem_cons_self state start

end Handler

/-- **After any calls at any times every stored entity is in order, or exactly as it was given** when the
store was made, or in a creation or a batch. If all that is given is in order, all that is stored is. -/
theorem Store.kept_in_order_or_as_given {features : List Feature} {properties : List Property}
    {switches : Store Feature} {values : Store Property} (madeSwitches : ofList features = .ok switches)
    (madeValues : ofList properties = .ok values) (calls : List (Moment × FeatureCall))
    (changes : List (Moment × PropertyCall)) :
    (∀ id feature,
      ((Repository.features handle).run switches calls).find? id = some feature →
        feature.createdAt ≤ feature.updatedAt ∨
          feature ∈ features ++ calls.flatMap fun (_, call) => call.given) ∧
    ∀ id property,
      ((Repository.properties handle).run values changes).find? id = some property →
        property.createdAt ≤ property.updatedAt ∨
          property ∈ properties ++ changes.flatMap fun (_, call) => call.given := by
  constructor
  · refine Handler.run_keeps (Dated _) ?_ ?_
    · intro moment call listed store dated
      refine dated_features dated fun feature given => ?_
      exact List.mem_append_right _ (List.mem_flatMap.mpr ⟨(moment, call), listed, given⟩)
    · exact dated_ofList madeSwitches fun feature listed => List.mem_append_left _ listed
  · refine Handler.run_keeps (Dated _) ?_ ?_
    · intro moment call listed store dated
      refine dated_properties dated fun property given => ?_
      exact List.mem_append_right _ (List.mem_flatMap.mpr ⟨(moment, call), listed, given⟩)
    · exact dated_ofList madeValues fun property listed => List.mem_append_left _ listed

/-- A lamp is built in with its creation after its last update, then switched on; a limit is set. The lamp and
the limit are in order then. -/
theorem Store.kept_in_order_after_changes :
    let lamp := { Feature.new "lamp" .epoch with createdAt := ⟨5, 0, by decide⟩ }
    let limit := Property.new "limit" (.text "1") .epoch
    let calls : List (Moment × FeatureCall) := [(⟨1, ⟨1, 0, by decide⟩⟩, .setEnabled "lamp" true)]
    let changes : List (Moment × PropertyCall) := [(⟨1, ⟨1, 0, by decide⟩⟩, .setValue "limit" "2")]
    ofList [lamp] = .ok (Store.empty.insert lamp) ∧ ofList [limit] = .ok (Store.empty.insert limit) ∧
      (∀ id feature,
        ((Repository.features handle).run (Store.empty.insert lamp) calls).find? id = some feature →
          feature.createdAt ≤ feature.updatedAt ∨ feature ∈ [lamp]) ∧
      ∀ id property,
        ((Repository.properties handle).run (Store.empty.insert limit) changes).find? id = some property →
          property.createdAt ≤ property.updatedAt ∨ property ∈ [limit] := by
  intro lamp limit calls changes
  have madeSwitches : ofList [lamp] = .ok (Store.empty.insert lamp) := by
    dsimp only [lamp]
    rfl
  have madeValues : ofList [limit] = .ok (Store.empty.insert limit) := by
    dsimp only [limit]
    rfl
  exact ⟨madeSwitches, madeValues, kept_in_order_or_as_given madeSwitches madeValues calls changes⟩

/-- **An entity can be given out of order**: a lamp that was created after its last update is kept as it is when
the store is made of it, when it is created, and when it is saved as a new one. -/
theorem Store.given_out_of_order :
    let lamp := { Feature.new "lamp" .epoch with createdAt := ⟨5, 0, by decide⟩ }
    let created : List (Moment × FeatureCall) := [(⟨0, .epoch⟩, .store (.create lamp))]
    let saved : List (Moment × FeatureCall) := [(⟨0, .epoch⟩, .store (.save [lamp]))]
    ¬lamp.createdAt ≤ lamp.updatedAt ∧
      (∃ store, ofList [lamp] = .ok store ∧ store.find? "lamp" = some lamp) ∧
      ofList ([] : List Feature) = .ok .empty ∧
      ((Repository.features handle).run .empty created).find? "lamp" = some lamp ∧
      ((Repository.features handle).run .empty saved).find? "lamp" = some lamp := by
  refine ⟨by decide, ⟨_, rfl, rfl⟩, rfl, rfl, rfl⟩

end Switchboard

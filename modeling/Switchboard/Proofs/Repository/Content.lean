/-
**What the calls of features and properties do to a store.**

* `FeatureCall.Alters`, `PropertyCall.Alters` — the identifiers of which a call may alter what is kept.
* `Repository.changing_cases` — a change of one feature either fails and leaves the store as it was, or
  replaces the feature that was kept under the identifier.
* `Repository.features_orderly`, `Repository.properties_orderly` — the calls keep a keyed store keyed,
  alter nothing under another identifier, and nothing at all if they fail.
-/

import Switchboard.Proofs.Store.Content
import Switchboard.Repository.Composed

namespace Switchboard

/-- A call may alter what is kept under an identifier. -/
def FeatureCall.Alters : FeatureCall → String → Prop
  | store call, id => call.Alters id
  | setEnabled target _, id | addToGroup target _, id | removeFromGroup target _, id => target = id
  | setGroupEnabled _ _, _ => True
  | hasGroup _, _ | readGroup _, _ | groups, _ => False

/-- A call may alter what is kept under an identifier. -/
def PropertyCall.Alters : PropertyCall → String → Prop
  | store call, id => call.Alters id
  | setValue target _, id => target = id

namespace Repository

variable {moment : Moment}

/-! ### One entity replaced -/

section Changing

variable {E : Type} [Entity E] {store : Store E}

theorem perform_fetch (id : String) :
    (Store.handle (.fetch id)).perform moment store = (found id (store.find? id), store) := by
  simp only [Store.handle, Act.perform_bind, Act.perform_get, Act.perform_lift]

theorem perform_update (entity : E) :
    (Store.handle (.update entity)).perform moment store =
      match store.update moment.wall entity with
      | .ok changed => (.ok (), changed)
      | .error fault => (.error fault, store) :=
  Store.perform_changing _

theorem changing_of_unknown {id : String} {change : E → Time.Instant → Except Fault E}
    (unknown : store.find? id = none) (moment : Moment) :
    (changing Store.handle id change).perform moment store =
      (.error (.notFound (Entity.kind E) id), store) := by
  unfold changing
  rw [Act.perform_bind, perform_fetch, unknown]
  rfl

/-- What is kept is changed, and the store is updated to the change. -/
theorem changing_of_kept {id : String} {change : E → Time.Instant → Except Fault E} {entity : E}
    (kept : store.find? id = some entity) (moment : Moment) :
    (changing Store.handle id change).perform moment store =
      match change entity moment.wall with
      | .ok changed => (Store.handle (.update changed)).perform moment store
      | .error fault => (.error fault, store) := by
  unfold changing
  rw [Act.perform_bind, perform_fetch, kept]
  cases altered : change entity moment.wall <;>
    simp only [found, Act.perform_bind, Act.perform_now, Act.perform_lift, altered]

/-- **A change of one entity** either fails and leaves the store as it was, or replaces what is kept
under the identifier of the changed entity. -/
theorem changing_cases (moment : Moment) (store : Store E) (id : String)
    (change : E → Time.Instant → Except Fault E) :
    (∃ fault, (changing Store.handle id change).perform moment store = (.error fault, store)) ∨
      ∃ entity changed, store.find? id = some entity ∧ change entity moment.wall = .ok changed ∧
        ∃ previous, store.find? (Entity.id changed) = some previous ∧
          (changing Store.handle id change).perform moment store =
            (.ok (), store.insert (Store.restamp moment.wall changed previous)) := by
  cases kept : store.find? id with
  | none => exact .inl ⟨_, changing_of_unknown kept moment⟩
  | some entity =>
    rw [changing_of_kept kept]
    cases altered : change entity moment.wall with
    | error fault => exact .inl ⟨fault, rfl⟩
    | ok changed =>
      dsimp only
      rw [perform_update]
      cases updated : store.update moment.wall changed with
      | error fault => exact .inl ⟨fault, rfl⟩
      | ok after =>
        obtain ⟨_, previous, replaced, rfl⟩ := Store.update_eq_ok updated
        exact .inr ⟨entity, changed, rfl, altered, previous, replaced, rfl⟩

theorem keyed_changing (keyed : store.Keyed) (id : String)
    (change : E → Time.Instant → Except Fault E) :
    ((changing Store.handle id change).perform moment store).2.Keyed := by
  rcases changing_cases moment store id change with
    ⟨fault, fails⟩ | ⟨entity, changed, _, _, previous, _, succeeds⟩
  · rw [fails]
    exact keyed
  · rw [succeeds]
    exact keyed.insert _

theorem changing_of_error {id : String} {change : E → Time.Instant → Except Fault E} {fault : Fault}
    (fails : ((changing Store.handle id change).perform moment store).1 = .error fault) :
    ((changing Store.handle id change).perform moment store).2 = store := by
  rcases changing_cases moment store id change with
    ⟨fault, failed⟩ | ⟨entity, changed, _, _, previous, _, succeeds⟩
  · rw [failed]
  · rw [succeeds] at fails
    cases fails

/-- Nothing is altered under another identifier if the change keeps the identifier of the entity. -/
theorem find?_changing (keyed : store.Keyed) {target id : String}
    {change : E → Time.Instant → Except Fault E}
    (same : ∀ entity now changed, change entity now = .ok changed → Entity.id changed = Entity.id entity)
    (other : target ≠ id) :
    ((changing Store.handle target change).perform moment store).2.find? id = store.find? id := by
  rcases changing_cases moment store target change with
    ⟨fault, fails⟩ | ⟨entity, changed, kept, altered, previous, _, succeeds⟩
  · rw [fails]
  · rw [succeeds]
    refine Store.find?_insert_of_ne ?_
    rw [Store.id_restamp, same entity _ changed altered, keyed target entity kept]
    exact other

end Changing

/-! ### The calls of features -/

section Features

variable {store : Store Feature}

theorem perform_all {E : Type} [Entity E] (store : Store E) :
    (Store.handle .all).perform moment store = (.ok store.toList, store) := rfl

/-- The members of a group, or the fault that there are none. -/
theorem perform_members (store : Store Feature) (group : String) :
    (members Store.handle group).perform moment store =
      (match store.toList.filter fun feature => feature.inGroup group with
        | [] => .error (.notFound .group group)
        | members => .ok members, store) := by
  unfold members
  rw [Act.perform_bind, perform_all]
  cases listed : store.toList.filter fun feature => feature.inGroup group with
  | nil => simp only [listed, Act.perform_throw]
  | cons first rest => simp only [listed, Act.perform_pure]

/-- The members that were read are those that are stored. -/
theorem members_eq_ok {group : String} {found : List Feature}
    (read : ((members Store.handle group).perform moment store).1 = .ok found) :
    found = store.toList.filter fun feature => feature.inGroup group := by
  rw [perform_members] at read
  cases listed : store.toList.filter fun feature => feature.inGroup group with
  | nil =>
    simp only [listed] at read
    cases read
  | cons first rest =>
    simp only [listed] at read
    cases read
    rfl

theorem perform_save {E : Type} [Entity E] (store : Store E) (entities : List E) :
    (Store.handle (.save entities)).perform moment store =
      match store.save moment.wall entities with
      | .ok changed => (.ok (), changed)
      | .error fault => (.error fault, store) :=
  Store.perform_changing _

/-- **A change of a group** either fails and leaves the store as it was, or saves the members. -/
theorem setGroupEnabled_cases (moment : Moment) (store : Store Feature) (group : String)
    (enabled : Bool) :
    (∃ fault, (features Store.handle (.setGroupEnabled group enabled)).perform moment store =
        (.error fault, store)) ∨
      (features Store.handle (.setGroupEnabled group enabled)).perform moment store =
        (.ok (), ((store.toList.filter fun feature => feature.inGroup group).map
          fun feature => feature.withEnabled moment.wall enabled).foldl
            (Store.upsert moment.wall) store) := by
  unfold features
  rw [Act.perform_bind, perform_members]
  cases listed : store.toList.filter fun feature => feature.inGroup group with
  | nil => exact .inl ⟨_, rfl⟩
  | cons first rest =>
    simp only [Act.perform_bind, Act.perform_now]
    rw [perform_save]
    cases saved : store.save moment.wall ((first :: rest).map fun feature =>
        feature.withEnabled moment.wall enabled) with
    | error fault => exact .inl ⟨fault, rfl⟩
    | ok after =>
      obtain ⟨_, rfl⟩ := Store.save_eq_ok saved
      exact .inr rfl

/-- The change that takes a feature out of a group keeps its identifier. -/
theorem id_leaving {group : String} (feature : Feature) (now : Time.Instant) (changed : Feature)
    (left : (if feature.inGroup group then .ok (feature.withGroup now none)
      else .error (.notFound .group group) : Except Fault Feature) = .ok changed) :
    Entity.id changed = Entity.id feature := by
  split at left
  · cases left
    rfl
  · cases left

theorem perform_readGroup_snd (store : Store Feature) (group : String) :
    ((features Store.handle (.readGroup group)).perform moment store).2 = store := by
  unfold features
  rw [perform_members]

theorem keyed_features (keyed : store.Keyed) (call : FeatureCall) :
    ((features Store.handle call).perform moment store).2.Keyed := by
  cases call with
  | store call => exact Store.keyed_handle keyed call
  | setEnabled id _ | removeFromGroup id _ => exact keyed_changing keyed id _
  | addToGroup id group =>
    unfold features
    rw [Act.perform_bind, Act.perform_lift]
    cases checkIdentifier group with
    | error fault => exact keyed
    | ok done => exact keyed_changing keyed id _
  | setGroupEnabled group enabled =>
    rcases setGroupEnabled_cases moment store group enabled with ⟨fault, fails⟩ | succeeds
    · rw [fails]
      exact keyed
    · rw [succeeds]
      exact keyed.upsertAll _ _
  | readGroup group =>
    rw [perform_readGroup_snd]
    exact keyed
  | hasGroup _ | groups => exact keyed

theorem find?_features (keyed : store.Keyed) {call : FeatureCall} {id : String}
    (other : ¬call.Alters id) :
    ((features Store.handle call).perform moment store).2.find? id = store.find? id := by
  cases call with
  | store call => exact Store.find?_handle other
  | setEnabled target enabled =>
    refine find?_changing keyed (fun feature now changed altered => ?_) other
    cases altered
    rfl
  | addToGroup target group =>
    unfold features
    rw [Act.perform_bind, Act.perform_lift]
    cases checkIdentifier group with
    | error fault => rfl
    | ok done =>
      refine find?_changing keyed (fun feature now changed altered => ?_) other
      cases altered
      rfl
  | removeFromGroup target group => exact find?_changing keyed id_leaving other
  | setGroupEnabled group enabled => exact absurd trivial other
  | readGroup group => rw [perform_readGroup_snd]
  | hasGroup _ | groups => rfl

theorem features_of_error {call : FeatureCall} {fault : Fault}
    (fails : ((features Store.handle call).perform moment store).1 = .error fault) :
    ((features Store.handle call).perform moment store).2 = store := by
  cases call with
  | store call => exact Store.handle_of_error fails
  | setEnabled id enabled => exact changing_of_error fails
  | removeFromGroup id group => exact changing_of_error fails
  | addToGroup id group =>
    unfold features at fails ⊢
    rw [Act.perform_bind, Act.perform_lift] at fails ⊢
    cases checked : checkIdentifier group with
    | error fault => rfl
    | ok done =>
      rw [checked] at fails
      exact changing_of_error fails
  | setGroupEnabled group enabled =>
    rcases setGroupEnabled_cases moment store group enabled with ⟨fault, failed⟩ | succeeds
    · rw [failed]
    · rw [succeeds] at fails
      cases fails
  | readGroup group => exact perform_readGroup_snd store group
  | hasGroup _ | groups => rfl

/-- **The calls of features on a store are orderly.** -/
theorem features_orderly : Handler.Orderly id FeatureCall.Alters (features Store.handle) where
  keyed call _ _ keyed := keyed_features keyed call
  frame _ _ _ _ keyed other := find?_features keyed other
  error _ _ _ _ fails := features_of_error fails

end Features

/-! ### The calls of properties -/

section Properties

variable {store : Store Property}

theorem id_withValueRead {raw : String} (property : Property) (now : Time.Instant)
    (changed : Property) (read : property.withValueRead now raw = .ok changed) :
    Entity.id changed = Entity.id property := by
  unfold Property.withValueRead at read
  split at read
  · cases read
  · obtain ⟨_, _, stamped⟩ := Outcome.bind_eq_ok.mp read
    cases stamped
    rfl

theorem keyed_properties (keyed : store.Keyed) (call : PropertyCall) :
    ((properties Store.handle call).perform moment store).2.Keyed := by
  cases call with
  | store call => exact Store.keyed_handle keyed call
  | setValue id raw => exact keyed_changing keyed id _

theorem find?_properties (keyed : store.Keyed) {call : PropertyCall} {id : String}
    (other : ¬call.Alters id) :
    ((properties Store.handle call).perform moment store).2.find? id = store.find? id := by
  cases call with
  | store call => exact Store.find?_handle other
  | setValue target raw => exact find?_changing keyed id_withValueRead other

theorem properties_of_error {call : PropertyCall} {fault : Fault}
    (fails : ((properties Store.handle call).perform moment store).1 = .error fault) :
    ((properties Store.handle call).perform moment store).2 = store := by
  cases call with
  | store call => exact Store.handle_of_error fails
  | setValue id raw => exact changing_of_error fails

/-- **The calls of properties on a store are orderly.** -/
theorem properties_orderly : Handler.Orderly id PropertyCall.Alters (properties Store.handle) where
  keyed call _ _ keyed := keyed_properties keyed call
  frame _ _ _ _ keyed other := find?_properties keyed other
  error _ _ _ _ fails := properties_of_error fails

end Properties

end Repository

end Switchboard

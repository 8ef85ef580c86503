/-
**Notices replayed on a store.**

* `Entity.unstamped`, `Store.SameButStamps` — entities without their own timestamps, and stores that keep
  the same entities but for them.
* `StoreNotice.replay`, `FeatureNotice.replay` — what a notice says of the entities that are stored.
* `Store.same_replay`, `Store.same_replayFeature` — stores that are the same but for stamps stay so.
* `Repository.same_features`, `Repository.same_properties` — **the notices of a call, replayed on the store
  before it, give the store after it.**
-/

import Switchboard.Proofs.Notices.Calls
import Switchboard.Proofs.Repository.Content

namespace Switchboard

open Act

/-! ### Entities without timestamps -/

/-- A type of entities of which a second stamp leaves no trace of the first. -/
class LawfulStamps (E : Type) [Entity E] : Prop where
  stamp_stamp : ∀ (entity : E) (created updated created' updated' : Time.Instant),
    Entity.stamp (Entity.stamp entity created updated) created' updated' =
      Entity.stamp entity created' updated'

instance : LawfulStamps Feature := ⟨fun _ _ _ _ _ => rfl⟩

instance : LawfulStamps Property := ⟨fun _ _ _ _ _ => rfl⟩

namespace Entity

variable {E : Type} [Entity E]

/-- An entity with its own timestamps blanked out. -/
def unstamped (entity : E) : E := Entity.stamp entity .epoch .epoch

theorem id_unstamped (entity : E) : Entity.id (unstamped entity) = Entity.id entity := Entity.id_stamp _ _ _

theorem unstamped_stamp [LawfulStamps E] (entity : E) (created updated : Time.Instant) :
    unstamped (Entity.stamp entity created updated) = unstamped entity :=
  LawfulStamps.stamp_stamp _ _ _ _ _

theorem unstamped_touched [LawfulStamps E] (now : Time.Instant) (entity : E) :
    unstamped (Entity.touched now entity) = unstamped entity := unstamped_stamp _ _ _

end Entity

open Entity (unstamped)

namespace Store

variable {E : Type} [Entity E]

/-- Two stores keep the same entities, but for the timestamps of the entities. -/
def SameButStamps (first second : Store E) : Prop :=
  ∀ id, (first.find? id).map unstamped = (second.find? id).map unstamped

theorem SameButStamps.refl (store : Store E) : store.SameButStamps store := fun _ => rfl

theorem SameButStamps.trans {first second third : Store E} (early : first.SameButStamps second)
    (late : second.SameButStamps third) : first.SameButStamps third :=
  fun id => (early id).trans (late id)

/-! ### Replay -/

/-- The store with the entity under an identifier changed, if there is one. -/
def modify (store : Store E) (id : String) (change : E → E) : Store E :=
  ⟨store.entities.modify id change⟩

omit [Entity E] in
theorem find?_modify (store : Store E) (id other : String) (change : E → E) :
    (store.modify id change).find? other =
      if id = other then (store.find? id).map change else store.find? other := by
  show (store.entities.modify id change)[other]? = _
  rw [Std.ExtTreeMap.getElem?_modify]
  simp only [Std.compare_eq_iff_eq]
  rfl

end Store

/-- The store after what a notice tells. -/
def StoreNotice.replay {E : Type} [Entity E] (store : Store E) : StoreNotice E → Store E
  | created entity | updated entity => store.insert entity
  | deleted id => ⟨store.entities.erase id⟩
  | allDeleted => .empty
  | prepared => store

/-- The feature switched on or off. -/
def Feature.switched (enabled : Bool) (feature : Feature) : Feature := { feature with enabled }

/-- The feature in a group, or in none. -/
def Feature.grouped (group : Option String) (feature : Feature) : Feature := { feature with group }

/-- The store after what a notice tells. -/
def FeatureNotice.replay (store : Store Feature) : FeatureNotice → Store Feature
  | .store notice => notice.replay store
  | toggled id enabled => store.modify id (Feature.switched enabled)
  | addedToGroup id group => store.modify id (Feature.grouped (some group))
  | removedFromGroup id _ => store.modify id (Feature.grouped none)
  | used _ _ => store

namespace Store

section Same

variable {E : Type} [Entity E] {first second : Store E}

theorem same_insert (same : first.SameButStamps second) {entity other : E}
    (alike : unstamped entity = unstamped other) :
    (first.insert entity).SameButStamps (second.insert other) := by
  intro id
  have named : Entity.id entity = Entity.id other := by
    rw [← Entity.id_unstamped entity, alike, Entity.id_unstamped]
  rw [find?_insert, find?_insert, named]
  split
  · exact congrArg some alike
  · exact same id

theorem same_erase (same : first.SameButStamps second) (id : String) :
    SameButStamps (E := E) ⟨first.entities.erase id⟩ ⟨second.entities.erase id⟩ := by
  intro other
  show ((first.entities.erase id)[other]?).map unstamped = ((second.entities.erase id)[other]?).map unstamped
  rw [Table.getElem?_erase_eq, Table.getElem?_erase_eq]
  split
  · rfl
  · exact same other

/-- A change that does not look at timestamps. -/
theorem same_modify (same : first.SameButStamps second) (change : E → E)
    (blind : ∀ entity, unstamped (change entity) = change (unstamped entity)) (id : String) :
    (first.modify id change).SameButStamps (second.modify id change) := by
  intro other
  rw [find?_modify, find?_modify]
  split
  · have commutes : unstamped ∘ change = change ∘ unstamped := funext blind
    rw [Option.map_map, Option.map_map, commutes, ← Option.map_map, ← Option.map_map, same id]
  · exact same other

/-- **Replay does not look at timestamps.** -/
theorem same_replay (same : first.SameButStamps second) (notice : StoreNotice E) :
    (notice.replay first).SameButStamps (notice.replay second) := by
  cases notice with
  | created entity | updated entity => exact same_insert same rfl
  | deleted id => exact same_erase same id
  | allDeleted => exact .refl _
  | prepared => exact same

end Same

/-- **Replay does not look at timestamps.** -/
theorem same_replayFeature {first second : Store Feature} (same : first.SameButStamps second)
    (notice : FeatureNotice) : (notice.replay first).SameButStamps (notice.replay second) := by
  cases notice with
  | store notice => exact same_replay same notice
  | toggled id enabled => exact same_modify same (Feature.switched enabled) (fun _ => rfl) id
  | addedToGroup id group => exact same_modify same (Feature.grouped _) (fun _ => rfl) id
  | removedFromGroup id group => exact same_modify same (Feature.grouped _) (fun _ => rfl) id
  | used id context => exact same

/-- What one notice keeps of two stores, many notices keep. -/
theorem same_foldl {E N : Type} [Entity E] {replay : Store E → N → Store E}
    (keeps : ∀ {first second : Store E}, first.SameButStamps second → ∀ notice,
      (replay first notice).SameButStamps (replay second notice))
    {first second : Store E} (same : first.SameButStamps second) (notices : List N) :
    (notices.foldl replay first).SameButStamps (notices.foldl replay second) := by
  induction notices generalizing first second with
  | nil => exact same
  | cons notice rest ih => exact ih (keeps same notice)

/-! ### Changes told by notices -/

section Changes

variable {E : Type} [Entity E] [LawfulStamps E] {store : Store E}

theorem unstamped_restamp (now : Time.Instant) (entity previous : E) :
    unstamped (restamp now entity previous) = unstamped entity := Entity.unstamped_stamp _ _ _

/-- A batch replaces what it replaces by entities that differ from its own in their timestamps. -/
theorem same_upsert (store : Store E) (now : Time.Instant) (entity : E) :
    (store.insert entity).SameButStamps (upsert now store entity) := by
  unfold upsert
  split
  · exact same_insert (.refl store) (unstamped_restamp now entity _).symm
  · exact .refl _

theorem same_upsertAll {first second : Store E} (same : first.SameButStamps second) (now : Time.Instant)
    (entities : List E) : ((entities.map StoreNotice.updated).foldl StoreNotice.replay first).SameButStamps
      (entities.foldl (upsert now) second) := by
  induction entities generalizing first second with
  | nil => exact same
  | cons entity rest ih => exact ih ((same_insert same rfl).trans (same_upsert second now entity))

omit [LawfulStamps E] in
/-- An entity replaced by a change of it, told as an edit. -/
theorem same_edit {entity changed : E} {id : String} (kept : store.find? id = some entity)
    {edit : E → E} (edited : unstamped changed = unstamped (edit entity))
    (named : Entity.id (edit entity) = id) :
    (store.modify id edit).SameButStamps (store.insert changed) := by
  intro other
  have target : Entity.id changed = id := by
    rw [← Entity.id_unstamped, edited, Entity.id_unstamped, named]
  rw [find?_modify, find?_insert, target, kept]
  split
  · exact congrArg some edited.symm
  · rfl

end Changes

/-! ### Calls of a store told by their notices -/

section Calls

variable {E : Type} [Entity E] {store : Store E} {moment : Moment}

/-- A change of the store that is told whenever it succeeds. -/
theorem same_changing {change : Store E → Time.Instant → Except Fault (Store E)}
    {notices : List (StoreNotice E)}
    (told : ∀ changed, change store moment.wall = .ok changed →
      (notices.foldl StoreNotice.replay store).SameButStamps changed) :
    ((Notified.reported notices ((changing change).perform moment store).1).foldl StoreNotice.replay
      store).SameButStamps ((changing change).perform moment store).2 := by
  rw [perform_changing]
  cases outcome : change store moment.wall with
  | ok changed => exact told changed outcome
  | error fault => exact .refl store

/-- **The notices of a call, replayed, give the store after it.** -/
theorem same_handle [LawfulStamps E] (moment : Moment) (store : Store E) (call : StoreCall E) :
    ((Notified.reported call.notices ((handle call).perform moment store).1).foldl StoreNotice.replay
      store).SameButStamps ((handle call).perform moment store).2 := by
  cases call with
  | create entity =>
    refine same_changing fun changed succeeds => ?_
    obtain ⟨_, _, rfl⟩ := create_eq_ok succeeds
    exact .refl _
  | update entity =>
    refine same_changing fun changed succeeds => ?_
    obtain ⟨_, previous, _, rfl⟩ := update_eq_ok succeeds
    exact same_insert (.refl store) (unstamped_restamp _ _ _).symm
  | delete id =>
    refine same_changing fun changed succeeds => ?_
    obtain ⟨_, rfl⟩ := delete_eq_ok succeeds
    exact .refl _
  | save entities =>
    refine same_changing fun changed succeeds => ?_
    obtain ⟨_, rfl⟩ := save_eq_ok succeeds
    exact same_upsertAll (.refl store) moment.wall entities
  | deleteAll | prepare => exact .refl _
  | has id | find id | all | count => exact .refl _
  | read id | fetch id =>
    simp only [handle, perform_bind, perform_get, perform_lift]
    cases found id (store.find? id) with
    | ok entity => exact .refl store
    | error fault => exact .refl store

end Calls

end Store

/-! ### Calls of features told by their notices -/

/-- The features that a call switches together. -/
def FeatureCall.listed (kept : Store Feature) : FeatureCall → List Feature
  | setGroupEnabled group _ => kept.toList.filter fun feature => feature.inGroup group
  | store _ | setEnabled _ _ | addToGroup _ _ | removeFromGroup _ _ | hasGroup _ | readGroup _ | groups => []

namespace Store

/-- What is stored under the identifier of a feature is this feature, switched or not. -/
def Offers (enabled : Bool) (store : Store Feature) (feature : Feature) : Prop :=
  ∃ kept, store.find? feature.id = some kept ∧ kept.id = feature.id ∧
    unstamped (kept.switched enabled) = unstamped (feature.switched enabled)

variable {first second : Store Feature} {enabled : Bool} {feature : Feature}

theorem upsert_switched (second : Store Feature) (now : Time.Instant) (enabled : Bool)
    (feature : Feature) :
    ∃ kept, unstamped kept = unstamped (feature.switched enabled) ∧
      upsert now second (feature.withEnabled now enabled) = second.insert kept := by
  have touched : unstamped (feature.withEnabled now enabled) = unstamped (feature.switched enabled) :=
    Entity.unstamped_touched now (feature.switched enabled)
  unfold upsert
  cases second.find? (Entity.id (feature.withEnabled now enabled)) with
  | some previous => exact ⟨_, (unstamped_restamp _ _ _).trans touched, rfl⟩
  | none => exact ⟨_, touched, rfl⟩

/-- A feature that is switched is told as a toggle. -/
theorem same_switched (same : first.SameButStamps second) (now : Time.Instant)
    (offers : second.Offers enabled feature) :
    (FeatureNotice.replay first (.toggled feature.id enabled)).SameButStamps
      (upsert now second (feature.withEnabled now enabled)) := by
  obtain ⟨kept, found, named, alike⟩ := offers
  obtain ⟨changed, switched, replaced⟩ := upsert_switched second now enabled feature
  rw [replaced]
  exact (same_replayFeature same (.toggled feature.id enabled)).trans
    (same_edit found (switched.trans alike.symm) named)

/-- Switching one feature leaves the others to be switched; one of the same identifier is switched again. -/
theorem Offers.upsert {other : Feature} (offers : second.Offers enabled feature)
    (offersOther : second.Offers enabled other) (now : Time.Instant) :
    (upsert now second (other.withEnabled now enabled)).Offers enabled feature := by
  obtain ⟨changed, switched, replaced⟩ := upsert_switched second now enabled other
  have named : changed.id = other.id := by
    have same := congrArg Feature.id switched
    exact same
  rw [replaced]
  by_cases same : other.id = feature.id
  · obtain ⟨kept, found, _, alike⟩ := offers
    obtain ⟨keptOther, foundOther, _, alikeOther⟩ := offersOther
    rw [same, found] at foundOther
    cases foundOther
    refine ⟨changed, ?_, named.trans same, ?_⟩
    · rw [find?_insert]
      exact if_pos (named.trans same)
    · have again := congrArg (Feature.switched enabled) switched
      exact again.trans (alikeOther.symm.trans alike)
  · obtain ⟨kept, found, rest⟩ := offers
    refine ⟨kept, ?_, rest⟩
    rw [find?_insert_of_ne fun collides => same (named.symm.trans collides)]
    exact found

/-- **Features that are switched together are told one by one.** -/
theorem same_switchedAll (same : first.SameButStamps second) (now : Time.Instant) {features : List Feature}
    (offers : ∀ feature ∈ features, second.Offers enabled feature) :
    ((features.map fun feature => FeatureNotice.toggled feature.id enabled).foldl FeatureNotice.replay
      first).SameButStamps ((features.map fun feature => feature.withEnabled now enabled).foldl
        (upsert now) second) := by
  induction features generalizing first second with
  | nil => exact same
  | cons feature rest ih =>
    have offered := offers feature List.mem_cons_self
    refine ih (same_switched same now offered) fun other listed => ?_
    exact (offers other (List.mem_cons_of_mem _ listed)).upsert offered now

end Store

/-- The property that is kept after a call that sets its value. -/
def PropertyCall.kept (after : Store Property) : PropertyCall → Option Property
  | store _ => none
  | setValue id _ => after.find? id

namespace Repository

open Store

section Features

variable {store : Store Feature} {moment : Moment}

/-- A change of one feature that is told as an edit. -/
theorem same_changing (keyed : store.Keyed) {id : String} {notice : FeatureNotice}
    {change : Feature → Time.Instant → Except Fault Feature} {edit : Feature → Feature}
    (told : notice.replay store = store.modify id edit)
    (edits : ∀ feature changed, change feature moment.wall = .ok changed →
      unstamped changed = unstamped (edit feature))
    (named : ∀ feature, (edit feature).id = feature.id) :
    ((Notified.reported [notice] ((changing Store.handle id change).perform moment store).1).foldl
      FeatureNotice.replay store).SameButStamps ((changing Store.handle id change).perform moment store).2 := by
  rcases changing_cases moment store id change with
    ⟨fault, fails⟩ | ⟨feature, changed, kept, altered, previous, _, succeeds⟩
  · rw [fails]
    exact .refl store
  · rw [succeeds]
    show (notice.replay store).SameButStamps _
    rw [told]
    refine same_edit kept ?_ ((named feature).trans (keyed id feature kept))
    exact (unstamped_restamp _ _ _).trans (edits feature changed altered)

/-- **The notices of a call, replayed, give the store after it.** -/
theorem same_features (moment : Moment) (keyed : store.Keyed) (call : FeatureCall) :
    ((Notified.reported (call.notices (call.listed store))
      ((features Store.handle call).perform moment store).1).foldl FeatureNotice.replay
        store).SameButStamps ((features Store.handle call).perform moment store).2 := by
  cases call with
  | store call =>
    have told := same_handle moment store call
    show ((Notified.reported (call.notices.map FeatureNotice.store)
      ((Store.handle call).perform moment store).1).foldl _ store).SameButStamps _
    cases outcome : ((Store.handle call).perform moment store).1 with
    | ok reply =>
      rw [outcome] at told
      rw [Notified.reported, List.foldl_map]
      exact told
    | error fault =>
      rw [outcome] at told
      exact told
  | setEnabled id enabled =>
    refine same_changing keyed rfl (fun feature changed altered => ?_) fun _ => rfl
    cases altered
    exact Entity.unstamped_touched _ _
  | addToGroup id group =>
    unfold features
    rw [perform_bind, perform_lift]
    cases checkIdentifier group with
    | error fault => exact .refl store
    | ok done =>
      refine same_changing keyed rfl (fun feature changed altered => ?_) fun _ => rfl
      cases altered
      exact Entity.unstamped_touched _ _
  | removeFromGroup id group =>
    refine same_changing keyed rfl (fun feature changed altered => ?_) fun _ => rfl
    split at altered
    · cases altered
      exact Entity.unstamped_touched _ _
    · cases altered
  | setGroupEnabled group enabled =>
    rcases setGroupEnabled_cases moment store group enabled with ⟨fault, fails⟩ | succeeds
    · rw [fails]
      exact .refl store
    · rw [succeeds]
      refine same_switchedAll (.refl store) moment.wall fun feature listed => ?_
      exact ⟨feature, keyed.find?_of_mem (List.mem_filter.mp listed).1, rfl, rfl⟩
  | readGroup group =>
    rw [perform_readGroup_snd, FeatureCall.notices, Notified.reported_nil]
    exact .refl store
  | hasGroup group | groups => exact .refl store

end Features

/-- **The notices of a call, replayed, give the store after it.** -/
theorem same_properties {store : Store Property} (moment : Moment) (keyed : store.Keyed)
    (call : PropertyCall) :
    ((Notified.reported (call.notices (call.kept ((properties Store.handle call).perform moment store).2))
      ((properties Store.handle call).perform moment store).1).foldl StoreNotice.replay
        store).SameButStamps ((properties Store.handle call).perform moment store).2 := by
  cases call with
  | store call => exact same_handle moment store call
  | setValue id raw =>
    unfold properties
    rcases changing_cases moment store id (fun property now => property.withValueRead now raw) with
      ⟨fault, fails⟩ | ⟨property, changed, found, altered, previous, _, succeeds⟩
    · rw [fails]
      exact .refl store
    · have named : changed.id = id := (id_withValueRead property _ changed altered).trans (keyed id _ found)
      have read : (store.insert (restamp moment.wall changed previous)).find? id =
          some (restamp moment.wall changed previous) := by
        rw [find?_insert, id_restamp]
        exact if_pos named
      rw [succeeds]
      unfold PropertyCall.kept PropertyCall.notices
      dsimp only
      rw [read]
      exact .refl _

end Repository

end Switchboard

/-
**Features but for when they were updated.**

No call of features looks at when a stored feature was last updated. So two stores that differ in nothing else answer
every call alike, and differ in nothing else after it.

* `Feature.undated`, `Store.undated`, `FeatureCall.undated` — a feature, a store and a reply with the times of updates
  blanked out.
* `Store.undated_eq_iff` — two stores are the same but for these times if what they keep is, identifier by identifier;
  then they find alike (`Store.find?_cases`) and list alike (`Store.map_undated_toList`).
* `Repository.AgreeUndated` — two actions have outcomes that are the same but for these times, and leave such stores;
  the rules follow the ways in which actions are made.
* `Repository.features_undated` — so does every call of features, and a run of them (`Repository.run_undated`).
-/

import Switchboard.Proofs.Store.Representation

namespace Switchboard

open Act

/-! ### Features and stores -/

namespace Feature

/-- A feature with the time of its last update blanked out. -/
def undated (feature : Feature) : Feature := { feature with updatedAt := .epoch }

variable {feature other : Feature} (same : feature.undated = other.undated)

include same

theorem id_of_undated : feature.id = other.id := by
  have equal := congrArg Feature.id same
  exact equal

theorem createdAt_of_undated : feature.createdAt = other.createdAt := by
  have equal := congrArg Feature.createdAt same
  exact equal

theorem inGroup_of_undated (group : String) : feature.inGroup group = other.inGroup group :=
  congrArg (fun feature => feature.inGroup group) same

/-- Switching a feature forgets when it was updated before. -/
theorem withEnabled_of_undated (now : Time.Instant) (enabled : Bool) :
    feature.withEnabled now enabled = other.withEnabled now enabled :=
  congrArg (fun feature => feature.withEnabled now enabled) same

/-- A feature is stamped alike in the place of two others. -/
theorem restamp_of_undated (now : Time.Instant) (next : Feature) :
    Store.restamp now next feature = Store.restamp now next other :=
  congrArg (fun created => next.stamp created now) (createdAt_of_undated same)

/-- Putting a feature into a group forgets when it was updated before. -/
theorem withGroup_of_undated (now : Time.Instant) (group : Option String) :
    feature.withGroup now group = other.withGroup now group :=
  congrArg (fun feature => feature.withGroup now group) same

end Feature

namespace Store

variable {first second : Store Feature}

/-- A store with the times of updates blanked out. -/
def undated (store : Store Feature) : Store Feature := ⟨store.entities.map fun _ feature => feature.undated⟩

theorem find?_undated (store : Store Feature) (id : String) :
    store.undated.find? id = (store.find? id).map Feature.undated :=
  Std.ExtTreeMap.getElem?_map

theorem toList_undated (store : Store Feature) : store.undated.toList = store.toList.map Feature.undated := by
  show (store.entities.map fun _ feature => feature.undated).values = store.entities.values.map Feature.undated
  rw [Table.values_eq, Table.values_eq, Std.ExtTreeMap.toList_map, List.map_map, List.map_map]
  rfl

/-- **Two stores are the same but for the times of updates** if what they keep is. -/
theorem undated_eq_iff : first.undated = second.undated ↔
    ∀ id, (first.find? id).map Feature.undated = (second.find? id).map Feature.undated := by
  constructor
  · intro same id
    rw [← find?_undated, ← find?_undated, same]
  · intro alike
    apply congrArg Store.mk
    apply Std.ExtTreeMap.ext_getElem?
    intro id
    exact (find?_undated first id).trans ((alike id).trans (find?_undated second id).symm)

theorem undated_insert (same : first.undated = second.undated) {feature other : Feature}
    (alike : feature.undated = other.undated) : (first.insert feature).undated = (second.insert other).undated := by
  apply undated_eq_iff.mpr
  intro id
  have named : Entity.id feature = Entity.id other := Feature.id_of_undated alike
  rw [find?_insert, find?_insert, named]
  split
  · exact congrArg some alike
  · exact undated_eq_iff.mp same id

theorem undated_erase (same : first.undated = second.undated) (target : String) :
    undated ⟨first.entities.erase target⟩ = undated ⟨second.entities.erase target⟩ := by
  apply undated_eq_iff.mpr
  intro id
  show ((first.entities.erase target)[id]?).map _ = ((second.entities.erase target)[id]?).map _
  rw [Table.getElem?_erase_eq, Table.getElem?_erase_eq]
  split
  · rfl
  · exact undated_eq_iff.mp same id

section Same

variable (same : first.undated = second.undated)

include same

/-- Both stores find nothing under an identifier, or features that are the same but for their updates. -/
theorem find?_cases (id : String) :
    (first.find? id = none ∧ second.find? id = none) ∨
      ∃ feature other, first.find? id = some feature ∧ second.find? id = some other ∧
        feature.undated = other.undated := by
  have alike := undated_eq_iff.mp same id
  cases found : first.find? id with
  | none =>
    rw [found] at alike
    exact .inl ⟨rfl, Option.map_eq_none_iff.mp alike.symm⟩
  | some feature =>
    rw [found] at alike
    obtain ⟨other, foundOther, equal⟩ := Option.map_eq_some_iff.mp alike.symm
    exact .inr ⟨feature, other, rfl, foundOther, equal.symm⟩

/-- Both stores list features that are the same but for their updates. -/
theorem map_undated_toList : first.toList.map Feature.undated = second.toList.map Feature.undated := by
  rw [← toList_undated, ← toList_undated, same]

/-! ### Changes of stores -/

theorem create_undated (feature : Feature) :
    (first.create feature).map undated = (second.create feature).map undated := by
  unfold create
  cases Entity.check feature with
  | error fault => rfl
  | ok done =>
    rcases find?_cases same (Entity.id feature) with ⟨missing, missingOther⟩ | ⟨kept, other, found, foundOther, _⟩
    · rw [missing, missingOther]
      exact congrArg Except.ok (undated_insert same rfl)
    · rw [found, foundOther]

theorem update_undated (now : Time.Instant) (feature : Feature) :
    (first.update now feature).map undated = (second.update now feature).map undated := by
  unfold update
  cases Entity.check feature with
  | error fault => rfl
  | ok done =>
    rcases find?_cases same (Entity.id feature) with ⟨missing, missingOther⟩ | ⟨kept, other, found, foundOther, alike⟩
    · rw [missing, missingOther]
    · rw [found, foundOther]
      apply congrArg Except.ok
      apply undated_insert same
      rw [Feature.restamp_of_undated alike]

theorem delete_undated (id : String) : (first.delete id).map undated = (second.delete id).map undated := by
  unfold delete
  rcases find?_cases same id with ⟨missing, missingOther⟩ | ⟨kept, other, found, foundOther, _⟩
  · rw [missing, missingOther]
  · rw [found, foundOther]
    exact congrArg Except.ok (undated_erase same id)

theorem upsert_undated (now : Time.Instant) (feature : Feature) :
    (upsert now first feature).undated = (upsert now second feature).undated := by
  unfold upsert
  rcases find?_cases same (Entity.id feature) with ⟨missing, missingOther⟩ | ⟨kept, other, found, foundOther, alike⟩
  · rw [missing, missingOther]
    exact undated_insert same rfl
  · rw [found, foundOther]
    apply undated_insert same
    rw [Feature.restamp_of_undated alike]

omit same in
theorem upsertAll_undated (same : first.undated = second.undated) (now : Time.Instant) (features : List Feature) :
    (features.foldl (upsert now) first).undated = (features.foldl (upsert now) second).undated := by
  induction features generalizing first second with
  | nil => exact same
  | cons feature rest ih => exact ih (upsert_undated same now feature)

theorem save_undated (now : Time.Instant) (features : List Feature) :
    (first.save now features).map undated = (second.save now features).map undated := by
  unfold save
  cases features.forM Entity.check with
  | error fault => rfl
  | ok done => exact congrArg Except.ok (upsertAll_undated same now features)

end Same

end Store

/-! ### Calls -/

/-- Two outcomes show the same if both are one fault, or both are values that show the same. -/
theorem Outcome.map_eq_map {ε α β : Type} {view : α → β} {first second : Except ε α} :
    first.map view = second.map view ↔
      (∃ fault, first = .error fault ∧ second = .error fault) ∨
        ∃ value other, first = .ok value ∧ second = .ok other ∧ view value = view other := by
  cases first <;> cases second <;> simp [Except.map, eq_comm]

/-- A reply with the times of updates blanked out. -/
def FeatureCall.undated : (call : FeatureCall) → call.Reply → call.Reply
  | .store (.find _), found? => found?.map Feature.undated
  | .store (.read _), feature => feature.undated
  | .store (.fetch _), feature => feature.undated
  | .store .all, features => features.map Feature.undated
  | .readGroup _, members => members.map Feature.undated
  | _, reply => reply

namespace Repository

/-- Started in stores that are the same but for the times of updates, two actions have outcomes that are the same but
for these times, and end in such stores. -/
def AgreeUndated {α : Type} (view : α → α) (left right : Act (Store Feature) α) : Prop :=
  ∀ moment first second, first.undated = second.undated →
    (left.perform moment first).1.map view = (right.perform moment second).1.map view ∧
      (left.perform moment first).2.undated = (right.perform moment second).2.undated

namespace AgreeUndated

variable {α β : Type} {view : α → α} {viewNext : β → β}

theorem pure {value other : α} (alike : view value = view other) :
    AgreeUndated view (Pure.pure value) (Pure.pure other) :=
  fun _ _ _ same => ⟨congrArg Except.ok alike, same⟩

theorem throw (fault : Fault) : AgreeUndated view (MonadExcept.throw fault) (MonadExcept.throw fault) :=
  fun _ _ _ same => ⟨rfl, same⟩

/-- **In a row.** -/
theorem bind {left right : Act (Store Feature) α} {next nextOther : α → Act (Store Feature) β}
    (agree : AgreeUndated view left right)
    (rest : ∀ value other, view value = view other → AgreeUndated viewNext (next value) (nextOther other)) :
    AgreeUndated viewNext (left >>= next) (right >>= nextOther) := by
  intro moment first second same
  obtain ⟨outcome, after⟩ := agree moment first second same
  rw [perform_bind, perform_bind]
  rcases Outcome.map_eq_map.mp outcome with ⟨fault, failed, failedOther⟩ | ⟨value, other, ended, endedOther, alike⟩
  · rw [failed, failedOther]
    exact ⟨rfl, after⟩
  · rw [ended, endedOther]
    exact rest value other alike moment _ _ after

/-- After an outcome that was found without looking at the store. -/
theorem lift_bind (outcome : Except Fault β) {next : β → Act (Store Feature) α}
    (rest : ∀ value, AgreeUndated view (next value) (next value)) :
    AgreeUndated view (lift outcome >>= next) (lift outcome >>= next) := by
  intro moment first second same
  rw [perform_bind, perform_bind, perform_lift, perform_lift]
  cases outcome with
  | ok value => exact rest value moment first second same
  | error fault => exact ⟨rfl, same⟩

/-- After a look at the time. -/
theorem now_bind {next nextOther : Time.Instant → Act (Store Feature) α}
    (rest : ∀ now, AgreeUndated view (next now) (nextOther now)) :
    AgreeUndated view (now >>= next) (now >>= nextOther) := by
  intro moment first second same
  rw [perform_bind, perform_bind, perform_now, perform_now]
  exact rest moment.wall moment first second same

/-- A change of the store, if it changes stores alike. -/
theorem changing {change : Store Feature → Time.Instant → Except Fault (Store Feature)}
    (alike : ∀ now first second, first.undated = second.undated →
      (change first now).map Store.undated = (change second now).map Store.undated) :
    AgreeUndated id (Store.changing change) (Store.changing change) := by
  intro moment first second same
  rw [Store.perform_changing, Store.perform_changing]
  rcases Outcome.map_eq_map.mp (alike moment.wall first second same) with
    ⟨fault, failed, failedOther⟩ | ⟨after, other, changed, changedOther, equal⟩
  · rw [failed, failedOther]
    exact ⟨rfl, same⟩
  · rw [changed, changedOther]
    exact ⟨rfl, equal⟩

end AgreeUndated

/-- What is fetched is the same but for its update, or missing from both stores. -/
theorem fetch_undated (id : String) :
    AgreeUndated Feature.undated (Store.handle (.fetch id)) (Store.handle (.fetch id)) := by
  intro moment first second same
  rw [perform_fetch, perform_fetch]
  rcases Store.find?_cases same id with ⟨missing, missingOther⟩ | ⟨kept, other, found, foundOther, alike⟩
  · rw [missing, missingOther]
    exact ⟨rfl, same⟩
  · rw [found, foundOther]
    exact ⟨congrArg Except.ok alike, same⟩

/-- What is listed is the same but for its updates. -/
theorem all_undated : AgreeUndated (List.map Feature.undated) (Store.handle .all) (Store.handle .all) :=
  fun _ _ _ same => ⟨congrArg Except.ok (Store.map_undated_toList same), same⟩

/-- **The calls that every repository answers do not look at the times of updates.** -/
theorem handle_undated (call : StoreCall Feature) :
    AgreeUndated (FeatureCall.undated (.store call)) (Store.handle call) (Store.handle call) := by
  cases call with
  | has id =>
    intro moment first second same
    have found := congrArg Option.isSome (Store.undated_eq_iff.mp same id)
    rw [Option.isSome_map, Option.isSome_map, ← Store.contains_eq, ← Store.contains_eq] at found
    exact ⟨congrArg Except.ok found, same⟩
  | find id => exact fun _ _ _ same => ⟨congrArg Except.ok (Store.undated_eq_iff.mp same id), same⟩
  | read id | fetch id => exact fetch_undated id
  | all => exact all_undated
  | create feature => exact .changing fun _ _ _ same => Store.create_undated same feature
  | update feature => exact .changing fun now _ _ same => Store.update_undated same now feature
  | delete id => exact .changing fun _ _ _ same => Store.delete_undated same id
  | save features => exact .changing fun now _ _ same => Store.save_undated same now features
  | deleteAll => exact fun _ _ _ _ => ⟨rfl, rfl⟩
  | count =>
    intro moment first second same
    have counted := congrArg List.length (Store.map_undated_toList same)
    rw [List.length_map, List.length_map, ← Store.size_eq_length, ← Store.size_eq_length] at counted
    exact ⟨congrArg Except.ok counted, same⟩
  | prepare => exact fun _ _ _ same => ⟨rfl, same⟩

/-- A change of one feature that forgets when it was updated before. -/
theorem changing_undated (id : String) {change : Feature → Time.Instant → Except Fault Feature}
    (forgets : ∀ now (feature other : Feature), feature.undated = other.undated →
      change feature now = change other now) :
    AgreeUndated (fun done => done) (changing Store.handle id change) (changing Store.handle id change) := by
  refine (fetch_undated id).bind fun feature other alike => .now_bind fun now => ?_
  rw [forgets now feature other alike]
  exact .lift_bind _ fun changed => handle_undated (.update changed)

/-- The members of a group are the same but for their updates, or there are none in either store. -/
theorem members_undated (group : String) :
    AgreeUndated (List.map Feature.undated) (members Store.handle group) (members Store.handle group) := by
  refine all_undated.bind fun listed listedOther alike => ?_
  have filtered : ∀ features : List Feature,
      (features.filter fun feature => feature.inGroup group).map Feature.undated =
        (features.map Feature.undated).filter fun feature => feature.inGroup group := by
    intro features
    rw [List.filter_map]
    rfl
  have members := congrArg (List.filter fun feature => feature.inGroup group) alike
  rw [← filtered, ← filtered] at members
  cases found : listed.filter fun feature => feature.inGroup group with
  | nil =>
    rw [found, List.map_nil, eq_comm, List.map_eq_nil_iff] at members
    rw [members]
    exact .throw _
  | cons member rest =>
    rw [found] at members
    cases foundOther : listedOther.filter fun feature => feature.inGroup group with
    | nil => rw [foundOther] at members; cases members
    | cons memberOther restOther =>
      rw [foundOther] at members
      exact .pure members

/-- **No call of features looks at the times of updates.** -/
theorem features_undated (call : FeatureCall) :
    AgreeUndated call.undated (features Store.handle call) (features Store.handle call) := by
  cases call with
  | store call => exact handle_undated call
  | setEnabled id enabled =>
    exact changing_undated id fun now feature other alike =>
      congrArg Except.ok (Feature.withEnabled_of_undated alike now enabled)
  | addToGroup id group =>
    refine .lift_bind _ fun _ => changing_undated id fun now feature other alike => ?_
    exact congrArg Except.ok (Feature.withGroup_of_undated alike now (some group))
  | removeFromGroup id group =>
    refine changing_undated id fun now feature other alike => ?_
    rw [Feature.inGroup_of_undated alike, Feature.withGroup_of_undated alike]
  | hasGroup group =>
    refine all_undated.bind fun listed listedOther alike => .pure ?_
    have asked := congrArg (fun features : List Feature => features.any fun feature => feature.inGroup group) alike
    rw [List.any_map, List.any_map] at asked
    exact asked
  | readGroup group => exact members_undated group
  | groups =>
    refine all_undated.bind fun listed listedOther alike => .pure ?_
    have named := congrArg (fun features : List Feature => Names.of (features.filterMap Feature.group)) alike
    rw [List.filterMap_map, List.filterMap_map] at named
    exact named
  | setGroupEnabled group enabled =>
    refine (members_undated group).bind fun found foundOther alike => .now_bind fun now => ?_
    have batch := congrArg (List.map fun feature : Feature => feature.withEnabled now enabled) alike
    rw [List.map_map, List.map_map] at batch
    have batch : found.map (fun feature => feature.withEnabled now enabled) =
      foundOther.map fun feature => feature.withEnabled now enabled := batch
    rw [batch]
    exact handle_undated (.save _)

/-- **No run of calls looks at the times of updates.** -/
theorem run_undated {first second : Store Feature} (same : first.undated = second.undated)
    (calls : List (Moment × FeatureCall)) :
    ((features Store.handle).run first calls).undated = ((features Store.handle).run second calls).undated := by
  induction calls generalizing first second with
  | nil => exact same
  | cons step rest ih => exact ih (features_undated step.2 step.1 first second same).2

end Repository

end Switchboard

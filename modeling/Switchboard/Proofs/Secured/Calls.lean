/-
**What the calls of a principal do.**

* `SecuredCall.target`, `SecuredCall.needs`, `SecuredCall.listAfter` — the feature that a call is about,
  the permissions that it needs there, and the access list that it leaves.
* `Secured.Permitted` — a change of a store that the access list of the target allows, and that leaves
  everything else as it was.
* `Secured.handle_allowed` — a call leaves the store as it was or makes a permitted change.
* `Secured.layered_allowed` — the same of a repository in layers.
* `Secured.atomic` — a call that fails leaves store, cache and notices as they were.
-/

import Switchboard.Evaluation.Secured
import Switchboard.Proofs.Layered.Writes

namespace Switchboard

open Act

namespace SecuredCall

/-- The type of the reply to a call. -/
abbrev Reply (_ : SecuredCall) : Type := Unit

/-- The identifier of the feature that a call is about. -/
def target : SecuredCall → String
  | setEnabled id _ | delete id | edit id _ => id
  | update feature => feature.id

/-- The permissions that a call needs on the feature as stored. -/
def needs (stored : Feature) : SecuredCall → List Permission
  | setEnabled _ _ => [.toggle]
  | update feature => if stored.acl = feature.acl then [.update] else [.update, .editPermissions]
  | delete _ => [.delete]
  | edit _ _ => [.editPermissions]

/-- The access list that a call leaves. -/
def listAfter (stored : Feature) : SecuredCall → AccessList
  | setEnabled _ _ | delete _ => stored.acl
  | update feature => feature.acl
  | edit _ change => stored.acl.apply change

/-- A call that needs no edit of permissions leaves the access list as it was. -/
theorem listAfter_of_not_needs {stored : Feature} {call : SecuredCall}
    (unneeded : .editPermissions ∉ call.needs stored) : call.listAfter stored = stored.acl := by
  cases call with
  | setEnabled id enabled | delete id => rfl
  | edit id change => exact absurd List.mem_cons_self unneeded
  | update feature =>
    by_cases same : stored.acl = feature.acl
    · exact same.symm
    · have needed : (update feature).needs stored = [.update, .editPermissions] := if_neg same
      rw [needed] at unneeded
      exact absurd (List.mem_cons_of_mem _ List.mem_cons_self) unneeded

end SecuredCall

namespace Secured

variable {moment : Moment} {store : Store Feature} {principal : Principal}

/-- A change of a store by a call of a principal: the access list of the feature that the call is about
grants what the call needs, and only this feature changes. -/
structure Permitted (principal : Principal) (call : SecuredCall) (before after : Store Feature) :
    Prop where
  granted : ∃ stored, before.find? call.target = some stored ∧
    (∀ permission ∈ call.needs stored, stored.acl.grants (some principal) permission = true) ∧
    ∀ kept, after.find? call.target = some kept →
      kept.id = call.target ∧ kept.acl = call.listAfter stored
  frame : ∀ id, call.target ≠ id → after.find? id = before.find? id

/-- A call leaves a store as it was or makes a permitted change. -/
def Allowed (principal : Principal) (call : SecuredCall) (before after : Store Feature) : Prop :=
  after = before ∨ Permitted principal call before after

theorem Allowed.keyed {call : SecuredCall} {before after : Store Feature}
    (allowed : Allowed principal call before after) (keyed : before.Keyed) : after.Keyed := by
  rcases allowed with rfl | ⟨⟨stored, _, _, replaced⟩, frame⟩
  · exact keyed
  · intro id feature found
    by_cases same : call.target = id
    · subst same
      exact (replaced feature found).1
    · rw [frame id same] at found
      exact keyed id feature found

/-! ### On a store -/

/-- **A principal is authorized** by the access list that is stored, and the store left as it is. -/
theorem authorized_cases (moment : Moment) (store : Store Feature) (principal : Principal)
    (id : String) (permission : Permission) :
    (∃ fault, (authorized (Repository.features Store.handle) principal id permission).perform moment
        store = (.error fault, store)) ∨
      ∃ stored, store.find? id = some stored ∧
        stored.acl.grants (some principal) permission = true ∧
        (authorized (Repository.features Store.handle) principal id permission).perform moment store =
          (.ok stored, store) := by
  have fetching : (Repository.features Store.handle (.store (.fetch id))).perform moment store =
    (found id (store.find? id), store) := Repository.perform_fetch id
  unfold authorized
  rw [perform_bind, fetching]
  cases kept : store.find? id with
  | none => exact .inl ⟨_, rfl⟩
  | some stored =>
    dsimp only [found]
    rw [perform_bind, perform_lift]
    unfold AccessList.authorize
    cases granted : stored.acl.grants (some principal) permission with
    | true => exact .inr ⟨stored, rfl, granted, rfl⟩
    | false => exact .inl ⟨_, rfl⟩

/-- A feature that is kept in place of the target is all that changes. -/
theorem permitted_insert {call : SecuredCall} {stored changed previous : Feature}
    (kept : store.find? call.target = some stored)
    (granted : ∀ permission ∈ call.needs stored, stored.acl.grants (some principal) permission = true)
    (same : Entity.id changed = call.target) (list : changed.acl = call.listAfter stored) :
    Permitted principal call store
      (store.insert (Store.restamp moment.wall changed previous)) where
  granted := by
    refine ⟨stored, kept, granted, fun later found => ?_⟩
    rw [Store.find?_insert, Store.id_restamp, if_pos same] at found
    cases found
    exact ⟨same, list⟩
  frame id other := Store.find?_insert_of_ne (by rw [Store.id_restamp, same]; exact other)

/-- An update that an access list allows fails or makes a permitted change. -/
theorem update_allowed (moment : Moment) {call : SecuredCall} {stored changed : Feature}
    (kept : store.find? call.target = some stored)
    (granted : ∀ permission ∈ call.needs stored, stored.acl.grants (some principal) permission = true)
    (same : Entity.id changed = call.target) (list : changed.acl = call.listAfter stored) :
    Allowed principal call store
      ((Repository.features Store.handle (.store (.update changed))).perform moment store).2 := by
  have updating : (Repository.features Store.handle (.store (.update changed))).perform moment store =
    _ := Repository.perform_update changed
  rw [updating]
  cases updated : store.update moment.wall changed with
  | error fault => exact .inl rfl
  | ok replaced =>
    obtain ⟨_, previous, _, rfl⟩ := Store.update_eq_ok updated
    exact .inr (permitted_insert kept granted same list)

theorem toggle_allowed (keyed : store.Keyed) (moment : Moment) {id : String} {enabled : Bool}
    {stored : Feature} (kept : store.find? id = some stored)
    (granted : stored.acl.grants (some principal) .toggle = true) :
    Allowed principal (.setEnabled id enabled) store
      ((Repository.features Store.handle (.setEnabled id enabled)).perform moment store).2 := by
  have needed : ∀ permission ∈ (SecuredCall.setEnabled id enabled).needs stored,
      stored.acl.grants (some principal) permission = true := List.forall_mem_singleton.mpr granted
  rcases Repository.changing_cases moment store id
      (fun feature now => .ok (feature.withEnabled now enabled)) with
    ⟨fault, fails⟩ | ⟨feature, changed, found, altered, previous, _, succeeds⟩
  · exact .inl (congrArg Prod.snd fails)
  · have after : ((Repository.features Store.handle (.setEnabled id enabled)).perform moment store).2 =
        store.insert (Store.restamp moment.wall changed previous) := congrArg Prod.snd succeeds
    rw [after]
    cases altered
    cases kept.symm.trans found
    exact .inr (permitted_insert kept needed (keyed id stored kept) rfl)

theorem delete_allowed (moment : Moment) {id : String} {stored : Feature}
    (kept : store.find? id = some stored)
    (granted : stored.acl.grants (some principal) .delete = true) :
    Allowed principal (.delete id) store
      ((Repository.features Store.handle (.store (.delete id))).perform moment store).2 := by
  have deleting : (Repository.features Store.handle (.store (.delete id))).perform moment store = _ :=
    Store.perform_changing _
  rw [deleting]
  cases deleted : store.delete id with
  | error fault => exact .inl rfl
  | ok after =>
    obtain ⟨_, rfl⟩ := Store.delete_eq_ok deleted
    refine .inr ⟨⟨stored, kept, List.forall_mem_singleton.mpr granted, fun later found => ?_⟩,
      fun other differs => ?_⟩
    · have absent : (store.entities.erase id)[id]? = some later := found
      rw [Table.getElem?_erase_eq, if_pos rfl] at absent
      cases absent
    · show (store.entities.erase id)[other]? = _
      rw [Table.getElem?_erase_eq, if_neg (fun same : id = other => differs same)]
      rfl

/-- What follows an authorization only matters for a feature that is stored and grants the permission. -/
theorem allowed_after_authorized {call : SecuredCall} {id : String} {permission : Permission}
    {next : Feature → Act (Store Feature) Unit}
    (rest : ∀ stored, store.find? id = some stored →
      stored.acl.grants (some principal) permission = true →
      Allowed principal call store ((next stored).perform moment store).2) :
    Allowed principal call store
      ((authorized (Repository.features Store.handle) principal id permission >>= next).perform moment
        store).2 := by
  rcases authorized_cases moment store principal id permission with
    ⟨fault, refused⟩ | ⟨stored, kept, granted, passed⟩
  · rw [perform_bind, refused]
    exact .inl rfl
  · rw [perform_bind, passed]
    exact rest stored kept granted

/-- **A call of a principal** leaves a store as it was or makes a permitted change. -/
theorem handle_allowed (keyed : store.Keyed) (moment : Moment) (principal : Principal)
    (call : SecuredCall) :
    Allowed principal call store
      ((handle (Repository.features Store.handle) principal call).perform moment store).2 := by
  cases call with
  | setEnabled id enabled =>
    exact allowed_after_authorized fun stored kept granted => toggle_allowed keyed moment kept granted
  | delete id =>
    exact allowed_after_authorized fun stored kept granted => delete_allowed moment kept granted
  | edit id change =>
    refine allowed_after_authorized fun stored kept granted => ?_
    exact update_allowed moment kept (List.forall_mem_singleton.mpr granted) (keyed id stored kept) rfl
  | update feature =>
    refine allowed_after_authorized fun stored kept granted => ?_
    by_cases same : stored.acl = feature.acl
    · have needed : (SecuredCall.update feature).needs stored = [.update] := if_pos same
      rw [if_neg (not_not_intro same)]
      refine update_allowed moment kept ?_ rfl rfl
      rw [needed]
      exact List.forall_mem_singleton.mpr granted
    · have needed : (SecuredCall.update feature).needs stored = [.update, .editPermissions] :=
        if_neg same
      rw [if_pos same, perform_bind, perform_lift]
      unfold AccessList.authorize
      cases editing : stored.acl.grants (some principal) .editPermissions with
      | false => exact .inl rfl
      | true =>
        refine update_allowed moment kept ?_ rfl rfl
        rw [needed]
        exact List.forall_mem_cons.mpr ⟨granted, List.forall_mem_singleton.mpr editing⟩

/-! ### In layers -/

/-- The calls of a principal on a backend are answered as on its store, or refused. -/
theorem answers (principal : Principal) :
    Backend.Answers
      (handle (Repository.features Backend.handle) principal :
        Handler SecuredCall.Reply (Backend Feature))
      (handle (Repository.features Store.handle) principal) where
  online call :=
    have same : Handler.AgreeOn (fun _ => True) Backend.Serves (Repository.features Backend.handle)
        (Repository.features Store.handle) := fun call _ => Backend.features_answers.online call
    handle_agree same (fun _ => trivial) (fun _ _ => trivial) (fun _ => trivial) (fun _ => trivial)
      principal call
  offline store call := by
    have refusing : ∀ id permission, Refused (Backend.Withholds store)
        (authorized (Repository.features Backend.handle) principal id permission) :=
      fun id permission => (Backend.features_answers.offline store (.store (.fetch id))).bind _
    cases call with
    | setEnabled id enabled => exact (refusing id .toggle).bind _
    | update feature => exact (refusing feature.id .update).bind _
    | delete id => exact (refusing id .delete).bind _
    | edit id change => exact (refusing id .editPermissions).bind _

theorem agree_bare (layers : Layers) (principal : Principal) (call : SecuredCall) :
    Agree Layered.Over (handle (Layered.features layers) principal call)
      (handle (Repository.features Backend.handle) principal call) := by
  have same : Handler.AgreeOn (fun call => ¬FeatureCall.FromCopy call) Layered.Over
      (Layered.features layers) (Repository.features Backend.handle) :=
    fun call answered => Layered.features_over layers answered
  refine handle_agree same ?_ ?_ ?_ ?_ principal call
  · exact fun id copy => copy
  · exact fun id enabled copy => copy
  · exact fun feature copy => copy
  · exact fun id copy => copy

section Layered

variable {layered : Layered Feature FeatureNotice}

/-- **A call of a principal in layers** leaves the store as it was or makes a permitted change. -/
theorem layered_allowed (layers : Layers) (keyed : layered.backend.store.Keyed) (moment : Moment)
    (principal : Principal) (call : SecuredCall) :
    Allowed principal call layered.backend.store
      ((handle (Layered.features layers) principal call).perform moment layered).2.backend.store := by
  obtain ⟨_, store, _⟩ := agree_bare layers principal call moment layered layered.backend ⟨rfl, rfl⟩
  rw [store]
  rcases (answers principal).cases call moment layered.backend with
    ⟨_, _, serves⟩ | ⟨_, _, withholds⟩
  · rw [serves.2]
    exact handle_allowed keyed moment principal call
  · exact .inl withholds.2

end Layered

/-! ### Failures -/

theorem authorized_untouched (layers : Layers) (principal : Principal) (id : String)
    (permission : Permission) (moment : Moment) (layered : Layered Feature FeatureNotice) :
    Layered.Untouched layered
      ((authorized (Layered.features layers) principal id permission).perform moment layered).2 := by
  unfold authorized
  rw [perform_bind]
  cases ((Layered.features layers (.store (.fetch id))).perform moment layered).1 with
  | error fault => exact Layered.fetch_untouched layers id moment layered
  | ok stored =>
    dsimp only
    rw [perform_bind, perform_lift]
    cases stored.acl.authorize (some principal) permission id with
    | error fault => exact Layered.fetch_untouched layers id moment layered
    | ok passed => exact Layered.fetch_untouched layers id moment layered

/-- **A call of a principal that fails** leaves the store, the cache and the notices as they were. -/
theorem atomic (layers : Layers) (principal : Principal) (call : SecuredCall) :
    Layered.Atomic (handle (Layered.features layers) principal call) := by
  cases call with
  | setEnabled id enabled =>
    refine Layered.Atomic.after (authorized_untouched layers principal id .toggle) fun stored => ?_
    exact Layered.features_atomic layers fun copy => copy
  | delete id =>
    refine Layered.Atomic.after (authorized_untouched layers principal id .delete) fun stored => ?_
    exact Layered.features_atomic layers fun copy => copy
  | edit id change =>
    refine Layered.Atomic.after (authorized_untouched layers principal id .editPermissions) ?_
    refine fun stored => Layered.Atomic.after (fun _ layered => Layered.Untouched.refl layered) ?_
    exact fun now => Layered.features_atomic layers fun copy => copy
  | update feature =>
    have updating : Layered.Atomic (Layered.features layers (.store (.update feature))) :=
      Layered.features_atomic layers fun copy => copy
    refine Layered.Atomic.after (authorized_untouched layers principal feature.id .update) ?_
    intro stored
    dsimp only
    split
    · refine Layered.Atomic.after (fun moment layered => ?_) fun _ => updating
      rw [perform_lift]
      exact Layered.Untouched.refl layered
    · exact updating

end Secured

end Switchboard

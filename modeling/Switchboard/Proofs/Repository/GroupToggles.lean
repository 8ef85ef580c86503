/-
**Groups switched as a whole and member by member.**

The members of a group are saved as one batch, in which each of them replaces itself. That does to a store what
switching them one after the other does, but for when they are said to have been updated.

* `Store.switchAll` — features switched one after the other, each at its time; what this does to the features that
  are switched (`Store.find?_switchAll_member`) and to all others (`Store.find?_switchAll_other`), and that the times
  show in nothing else (`Store.undated_switchAll`).
* `Store.Switchable` — features that a store lets be switched one after the other; the members of a group are
  (`Store.switchable_members`).
* `Repository.perform_setEnabled`, `Repository.perform_setGroupEnabled` — what switching one feature does, and what
  switching a group does.
-/

import Switchboard.Proofs.Repository.Undated

namespace Switchboard

open Act

namespace Store

variable {enabled : Bool} {times timesOther : Feature → Time.Instant} {store first second : Store Feature}
  {members : List Feature}

/-! ### Features switched in a store -/

/-- A store with features switched one after the other, each at its time. -/
def switchAll (enabled : Bool) (times : Feature → Time.Instant) (members : List Feature) (store : Store Feature) :
    Store Feature :=
  members.foldl (fun store member => store.insert (member.withEnabled (times member) enabled)) store

/-- What is kept under another identifier stays as it is. -/
theorem find?_switchAll_other {id : String} (other : ∀ member ∈ members, member.id ≠ id) :
    (store.switchAll enabled times members).find? id = store.find? id := by
  induction members generalizing store with
  | nil => rfl
  | cons member rest ih =>
    obtain ⟨first, remaining⟩ := List.forall_mem_cons.mp other
    exact (ih remaining).trans (find?_insert_of_ne first)

/-- A feature that is switched among others is found switched at its time. -/
theorem find?_switchAll_member (distinct : members.Pairwise fun first second => first.id ≠ second.id)
    {member : Feature} (listed : member ∈ members) :
    (store.switchAll enabled times members).find? member.id =
      some (member.withEnabled (times member) enabled) := by
  induction members generalizing store with
  | nil => cases listed
  | cons first rest ih =>
    obtain ⟨others, distinct⟩ := List.pairwise_cons.mp distinct
    rcases List.mem_cons.mp listed with rfl | later
    · refine (find?_switchAll_other fun other among => (others other among).symm).trans ?_
      exact (find?_insert _ _).trans (if_pos rfl)
    · exact ih distinct later

/-- **When features are switched shows only in when they were updated.** -/
theorem undated_switchAll (same : first.undated = second.undated) :
    (first.switchAll enabled times members).undated = (second.switchAll enabled timesOther members).undated := by
  induction members generalizing first second with
  | nil => exact same
  | cons member rest ih => exact ih (undated_insert same rfl)

/-! ### Features that can be switched -/

/-- Features of a store that can be switched one after the other: all of them are kept, under identifiers that differ,
and pass their check. -/
structure Switchable (store : Store Feature) (members : List Feature) : Prop where
  distinct : members.Pairwise fun first second => first.id ≠ second.id
  kept : ∀ member ∈ members, store.find? member.id = some member
  passed : ∀ member ∈ members, Entity.check member = .ok ()

/-- The members of a group can be switched one after the other. -/
theorem switchable_members (keyed : store.Keyed) (checked : store.Checked) (group : String) :
    store.Switchable (store.toList.filter fun feature => feature.inGroup group) := by
  have kept : ∀ member ∈ store.toList, store.find? member.id = some member := fun _ => keyed.find?_of_mem
  constructor
  · exact List.Pairwise.filter _ keyed.distinct
  · exact fun member listed => kept member (List.mem_filter.mp listed).1
  · exact fun member listed => checked _ member (kept member (List.mem_filter.mp listed).1)

/-- When the first feature is switched, the others are still there to be switched. -/
theorem Switchable.rest {member : Feature} {rest : List Feature} (switchable : store.Switchable (member :: rest))
    (now : Time.Instant) : (store.insert (member.withEnabled now enabled)).Switchable rest where
  distinct := (List.pairwise_cons.mp switchable.distinct).2
  kept other listed :=
    (find?_insert_of_ne ((List.pairwise_cons.mp switchable.distinct).1 other listed)).trans
      (switchable.kept other (List.mem_cons_of_mem _ listed))
  passed other listed := switchable.passed other (List.mem_cons_of_mem _ listed)

/-- A feature that is kept is switched by a batch as it is by itself. -/
theorem upsert_withEnabled {member : Feature} (kept : store.find? member.id = some member) (now : Time.Instant) :
    upsert now store (member.withEnabled now enabled) = store.insert (member.withEnabled now enabled) := by
  have found : store.find? (Entity.id (member.withEnabled now enabled)) = some member := kept
  unfold upsert
  rw [found]
  rfl

/-- A batch of switched features switches them at one time. -/
theorem Switchable.upsertAll (switchable : store.Switchable members) (now : Time.Instant) :
    (members.map fun member => member.withEnabled now enabled).foldl (upsert now) store =
      store.switchAll enabled (fun _ => now) members := by
  induction members generalizing store with
  | nil => rfl
  | cons member rest ih =>
    rw [List.map_cons, List.foldl_cons, upsert_withEnabled (switchable.kept member List.mem_cons_self)]
    exact ih (switchable.rest now)

end Store

namespace Repository

open Store

variable {store : Store Feature}

/-- **A feature that is kept is switched.** -/
theorem perform_setEnabled {member : Feature} (kept : store.find? member.id = some member)
    (passed : Entity.check member = .ok ()) (enabled : Bool) (moment : Moment) :
    (features Store.handle (.setEnabled member.id enabled)).perform moment store =
      (.ok (), store.insert (member.withEnabled moment.wall enabled)) := by
  have updated : store.update moment.wall (member.withEnabled moment.wall enabled) =
      .ok (store.insert (member.withEnabled moment.wall enabled)) := by
    have checked : Entity.check (member.withEnabled moment.wall enabled) = .ok () := passed
    have found : store.find? (Entity.id (member.withEnabled moment.wall enabled)) = some member := kept
    unfold update
    rw [checked, found]
    rfl
  unfold features changing
  rw [perform_bind, perform_fetch, kept]
  simp only [found, perform_bind, perform_now, perform_lift]
  rw [perform_update, updated]

/-- **A group is switched as its members are**, all of them at one time; a group without members is a fault. -/
theorem perform_setGroupEnabled (keyed : store.Keyed) (checked : store.Checked) (group : String) (enabled : Bool)
    (moment : Moment) :
    (features Store.handle (.setGroupEnabled group enabled)).perform moment store =
      match store.toList.filter fun feature => feature.inGroup group with
      | [] => (.error (.notFound .group group), store)
      | members => (.ok (), store.switchAll enabled (fun _ => moment.wall) members) := by
  have switchable := switchable_members keyed checked group
  unfold features
  rw [perform_bind, perform_members]
  cases listed : store.toList.filter fun feature => feature.inGroup group with
  | nil => rfl
  | cons member rest =>
    rw [listed] at switchable
    -- The check does not look at what switching changes.
    have passed : ((member :: rest).map fun feature => feature.withEnabled moment.wall enabled).forM Entity.check =
        .ok () := by
      refine Outcome.forM_eq_ok.mpr fun switched among => ?_
      obtain ⟨feature, one, rfl⟩ := List.mem_map.mp among
      exact switchable.passed feature one
    have saved : store.save moment.wall ((member :: rest).map fun feature =>
        feature.withEnabled moment.wall enabled) =
          .ok (store.switchAll enabled (fun _ => moment.wall) (member :: rest)) := by
      unfold save
      rw [passed, switchable.upsertAll]
      rfl
    simp only [perform_bind, perform_now]
    rw [perform_save, saved]

end Repository

end Switchboard

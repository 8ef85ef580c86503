/-
**Access is decided by the history of edits.**

A list that was edited from nothing grants a permission by what the edits of this permission tell, from when it was
last cleared.

* `AccessEdit.recent` — these edits; `AccessEdit.restricts` — a grant, even to nobody, or a restriction.
* `AccessEdit.ofUser`, `AccessEdit.ofGroup` — what an edit tells of those that it names; `AccessEdit.EndGranting` — the
  last of some edits that tells anything is a grant.
* `AccessEdit.entryAfter` — what an edit makes of the entry of its permission. It leaves the other entries alone
  (`AccessList.grantees?_apply`).
* `AccessEdit.Tell` — edits tell an entry. One edit more keeps this (`AccessEdit.Tell.concat`), so it holds of every
  history (`AccessList.tell_recent`).
* `AccessList.granted_by_history` — what a list grants, by the edits alone.
-/

import Mathlib.Data.List.DropRight
import Mathlib.Data.List.Induction
import Switchboard.Access.AccessList

namespace Switchboard

/-! ### Sets of names -/

namespace Names

theorem any_eq_any_toList (set : Names) (holds : String → Bool) : set.any holds = set.toList.any holds := by
  rcases set with ⟨⟨⟨inner⟩⟩⟩
  induction inner using Quotient.ind with
  | _ inner =>
    show inner.inner.any (fun name _ => holds name) = inner.inner.keys.any holds
    rw [Std.DTreeMap.Internal.Impl.any.eq_1]
    simp only [ForIn.forIn]
    rw [Std.DTreeMap.Internal.Impl.forIn_eq_forIn_keys]
    induction inner.inner.keys with
    | nil => rfl
    | cons first rest ih =>
      by_cases held : holds first = true
      · simp [held]
      · simpa [held] using ih

theorem any_eq_true {set : Names} {holds : String → Bool} :
    set.any holds = true ↔ ∃ name ∈ set, holds name = true := by
  rw [any_eq_any_toList, List.any_eq_true]
  simp only [Std.ExtTreeSet.mem_toList]

end Names

/-! ### What edits tell -/

namespace AccessEdit

/-- The permission that an edit is about. -/
def permission : AccessEdit → Permission
  | grantUsers permission _ | grantGroups permission _ | revokeUsers permission _
  | revokeGroups permission _ | restrict permission | clear permission => permission

/-- The edit makes an entry where there is none. -/
def restricts : AccessEdit → Bool
  | grantUsers _ _ | grantGroups _ _ | restrict _ => true
  | revokeUsers _ _ | revokeGroups _ _ | clear _ => false

/-- The edit takes the entry away. -/
def clears : AccessEdit → Bool
  | clear _ => true
  | grantUsers _ _ | grantGroups _ _ | revokeUsers _ _ | revokeGroups _ _ | restrict _ => false

/-- What an edit tells of a user, if it names it: that it is granted the permission, or that it is not. -/
def ofUser (user : String) : AccessEdit → Option Bool
  | grantUsers _ ids => if user ∈ ids then some true else none
  | revokeUsers _ ids => if user ∈ ids then some false else none
  | grantGroups _ _ | revokeGroups _ _ | restrict _ | clear _ => none

/-- What an edit tells of a group, if it names it. -/
def ofGroup (group : String) : AccessEdit → Option Bool
  | grantGroups _ ids => if group ∈ ids then some true else none
  | revokeGroups _ ids => if group ∈ ids then some false else none
  | grantUsers _ _ | revokeUsers _ _ | restrict _ | clear _ => none

/-- The last of some edits that tells anything is a grant. -/
def EndGranting (told : AccessEdit → Option Bool) (edits : List AccessEdit) : Prop :=
  (edits.filterMap told).getLast? = some true

/-- The edits of a permission from when it was last cleared, the oldest first. -/
def recent (permission : Permission) (edits : List AccessEdit) : List AccessEdit :=
  (edits.filter fun edit => edit.permission = permission).rtakeWhile fun edit => !edit.clears

section Concat

variable {permission : Permission} {edits : List AccessEdit} {edit : AccessEdit}

theorem recent_concat_of_ne (other : edit.permission ≠ permission) :
    recent permission (edits ++ [edit]) = recent permission edits := by
  simp [recent, other]

theorem recent_concat_of_clears (same : edit.permission = permission) (clears : edit.clears = true) :
    recent permission (edits ++ [edit]) = [] := by
  simp [recent, same, clears]

theorem recent_concat (same : edit.permission = permission) (keeps : edit.clears = false) :
    recent permission (edits ++ [edit]) = recent permission edits ++ [edit] := by
  simp [recent, same, keeps]

/-- Edits of other permissions are passed over. -/
theorem recent_filter (permission : Permission) (edits : List AccessEdit) :
    recent permission (edits.filter fun edit => edit.permission = permission) = recent permission edits := by
  simp [recent]

theorem endGranting_concat {told : AccessEdit → Option Bool} :
    EndGranting told (edits ++ [edit]) ↔
      told edit = some true ∨ told edit = none ∧ EndGranting told edits := by
  unfold EndGranting
  rw [List.filterMap_append]
  cases answer : told edit <;> simp [answer]

end Concat

/-! ### Entries -/

/-- What an edit makes of the entry of its permission. -/
def entryAfter (entry : Option Grantees) : AccessEdit → Option Grantees
  | grantUsers _ ids => some { entry.getD {} with users := (entry.getD {}).users.addAll ids }
  | grantGroups _ ids => some { entry.getD {} with groups := (entry.getD {}).groups.addAll ids }
  | revokeUsers _ ids => entry.map fun grantees => { grantees with users := grantees.users.removeAll ids }
  | revokeGroups _ ids => entry.map fun grantees => { grantees with groups := grantees.groups.removeAll ids }
  | restrict _ => some (entry.getD {})
  | clear _ => none

section EntryAfter

variable {edit : AccessEdit} (keeps : edit.clears = false) (entry : Option Grantees)

include keeps

theorem isSome_entryAfter : (edit.entryAfter entry).isSome = (entry.isSome || edit.restricts) := by
  cases edit with
  | clear permission => cases keeps
  | _ => simp [entryAfter, restricts]

/-- The users of an entry are those of before, unless the edit tells otherwise; a missing entry has none. -/
theorem mem_users_entryAfter (user : String) :
    user ∈ ((edit.entryAfter entry).getD {}).users ↔
      edit.ofUser user = some true ∨ edit.ofUser user = none ∧ user ∈ (entry.getD {}).users := by
  cases edit with
  | clear permission => cases keeps
  | grantUsers permission ids =>
    by_cases named : user ∈ ids <;> simp [entryAfter, ofUser, Names.mem_addAll, named]
  | revokeUsers permission ids =>
    by_cases named : user ∈ ids <;>
      cases entry <;> simp [entryAfter, ofUser, Names.mem_removeAll, named]
  | revokeGroups permission ids => cases entry <;> simp [entryAfter, ofUser]
  | grantGroups permission ids => simp [entryAfter, ofUser]
  | restrict permission => simp [entryAfter, ofUser]

/-- The groups of an entry are those of before, unless the edit tells otherwise; a missing entry has none. -/
theorem mem_groups_entryAfter (group : String) :
    group ∈ ((edit.entryAfter entry).getD {}).groups ↔
      edit.ofGroup group = some true ∨ edit.ofGroup group = none ∧ group ∈ (entry.getD {}).groups := by
  cases edit with
  | clear permission => cases keeps
  | grantGroups permission ids =>
    by_cases named : group ∈ ids <;> simp [entryAfter, ofGroup, Names.mem_addAll, named]
  | revokeGroups permission ids =>
    by_cases named : group ∈ ids <;>
      cases entry <;> simp [entryAfter, ofGroup, Names.mem_removeAll, named]
  | revokeUsers permission ids => cases entry <;> simp [entryAfter, ofGroup]
  | grantUsers permission ids => simp [entryAfter, ofGroup]
  | restrict permission => simp [entryAfter, ofGroup]

end EntryAfter

/-- Edits tell an entry: there is one if any of them restricts, and it holds the users and the groups that the edits
end granting. -/
structure Tell (edits : List AccessEdit) (entry : Option Grantees) : Prop where
  restricted : entry.isSome = edits.any restricts
  users : ∀ user, user ∈ (entry.getD {}).users ↔ EndGranting (ofUser user) edits
  groups : ∀ group, group ∈ (entry.getD {}).groups ↔ EndGranting (ofGroup group) edits

theorem tell_nil : Tell [] none := by
  refine ⟨rfl, fun user => ?_, fun group => ?_⟩
  · simp [EndGranting]
  · simp [EndGranting]

/-- **One edit more.** -/
theorem Tell.concat {edits : List AccessEdit} {entry : Option Grantees} (tell : Tell edits entry)
    {edit : AccessEdit} (keeps : edit.clears = false) : Tell (edits ++ [edit]) (edit.entryAfter entry) where
  restricted := by
    rw [isSome_entryAfter keeps, tell.restricted]
    simp
  users user := by rw [mem_users_entryAfter keeps, endGranting_concat, tell.users]
  groups group := by rw [mem_groups_entryAfter keeps, endGranting_concat, tell.groups]

end AccessEdit

/-! ### Lists -/

namespace AccessList

open AccessEdit (recent restricts EndGranting ofUser ofGroup)

variable {list : AccessList} {permission other : Permission}

theorem grantees?_grantWith (change : Grantees → Grantees) :
    (list.grantWith permission change).grantees? other =
      if permission = other then some (change ((list.grantees? other).getD {})) else list.grantees? other := by
  unfold grantWith grantees?
  rw [Std.ExtTreeMap.getElem?_insert]
  by_cases same : permission = other <;> simp [same]

theorem grantees?_revokeWith (change : Grantees → Grantees) :
    (list.revokeWith permission change).grantees? other =
      if permission = other then (list.grantees? other).map change else list.grantees? other := by
  unfold revokeWith
  by_cases same : permission = other
  · subst same
    cases entry : list.grantees? permission with
    | none => simp [entry]
    | some grantees => simp [grantees?]
  · cases entry : list.grantees? permission with
    | none => simp [same]
    | some grantees => simp [grantees?, Std.ExtTreeMap.getElem?_insert, same]

theorem grantees?_clear : (list.apply (.clear permission)).grantees? other =
    if permission = other then none else list.grantees? other := by
  unfold apply grantees?
  rw [Std.ExtTreeMap.getElem?_erase]
  by_cases same : permission = other <;> simp [same]

/-- **An edit concerns the entry of its permission** and no other. -/
theorem grantees?_apply (list : AccessList) (edit : AccessEdit) (permission : Permission) :
    (list.apply edit).grantees? permission =
      if edit.permission = permission then edit.entryAfter (list.grantees? permission)
      else list.grantees? permission := by
  cases edit with
  | grantUsers target ids => exact grantees?_grantWith _
  | grantGroups target ids => exact grantees?_grantWith _
  | revokeUsers target ids => exact grantees?_revokeWith _
  | revokeGroups target ids => exact grantees?_revokeWith _
  | restrict target => exact grantees?_grantWith _
  | clear target => exact grantees?_clear

/-- **The recent edits of a permission tell its entry.** -/
theorem tell_recent (permission : Permission) (edits : List AccessEdit) :
    AccessEdit.Tell (recent permission edits) ((({} : AccessList).applyAll edits).grantees? permission) := by
  -- From the end: what an edit adds to the history is what it does to the list.
  induction edits using List.reverseRecOn with
  | nil => exact AccessEdit.tell_nil
  | append_singleton edits edit ih =>
    have applied : ({} : AccessList).applyAll (edits ++ [edit]) = (({} : AccessList).applyAll edits).apply edit := by
      simp [applyAll]
    rw [applied, grantees?_apply]
    by_cases same : edit.permission = permission
    · rw [if_pos same]
      cases clears : edit.clears with
      | false =>
        rw [AccessEdit.recent_concat same clears]
        exact ih.concat clears
      | true =>
        -- No edit counts any more, and the entry is gone.
        rw [AccessEdit.recent_concat_of_clears same clears]
        cases edit with
        | clear target => exact AccessEdit.tell_nil
        | _ => cases clears
    · rw [if_neg same, AccessEdit.recent_concat_of_ne same]
      exact ih

theorem isOpen_iff : permission.isOpen = true ↔ permission = .use := by
  cases permission <;> simp [Permission.isOpen]

/-- A principal is among the grantees that edits tell if they end granting it, or one of its groups. -/
theorem includes_iff {edits : List AccessEdit} {grantees : Grantees} (tell : AccessEdit.Tell edits (some grantees))
    (caller : Principal) :
    grantees.includes caller = true ↔
      EndGranting (ofUser caller.userId) edits ∨
        ∃ group ∈ caller.groups, EndGranting (ofGroup group) edits := by
  have user := tell.users caller.userId
  have groups := tell.groups
  simp only [Option.getD_some] at user groups
  unfold Grantees.includes
  simp only [Bool.or_eq_true, Names.any_eq_true, Std.ExtTreeSet.contains_iff_mem, user, groups]

/-- **Access is decided by the history of edits.** Of the edits of a permission since it was last cleared: if none of
them is a grant or a restriction, everybody holds the permission if it is that of use, and nobody does otherwise; else
those callers hold it that have a principal whose user, or one of whose groups, was granted it by the last of them that
names it. The check that fails agrees, and edits of other permissions never matter. -/
theorem granted_by_history (edits : List AccessEdit) (permission : Permission) (principal : Option Principal)
    (target : String) :
    let list := ({} : AccessList).applyAll edits
    let since := recent permission edits
    (list.grants principal permission = true ↔
      if since.any restricts then
        ∃ caller, principal = some caller ∧ (EndGranting (ofUser caller.userId) since ∨
          ∃ group ∈ caller.groups, EndGranting (ofGroup group) since)
      else permission = .use) ∧
    (list.authorize principal permission target = .ok () ↔ list.grants principal permission = true) ∧
    list.grants principal permission =
      (({} : AccessList).applyAll (edits.filter fun edit => edit.permission = permission)).grants principal
        permission := by
  intro list since
  have decided : ∀ history, recent permission history = since →
      ((({} : AccessList).applyAll history).grants principal permission = true ↔
        if since.any restricts then
          ∃ caller, principal = some caller ∧ (EndGranting (ofUser caller.userId) since ∨
            ∃ group ∈ caller.groups, EndGranting (ofGroup group) since)
        else permission = .use) := by
    intro history same
    have tell := tell_recent permission history
    rw [same] at tell
    unfold grants
    cases entry : (({} : AccessList).applyAll history).grantees? permission with
    | none =>
      rw [entry] at tell
      rw [if_neg (by simp [← tell.restricted])]
      exact isOpen_iff
    | some grantees =>
      rw [entry] at tell
      rw [if_pos (by simp [← tell.restricted]), Option.any_eq_true]
      exact exists_congr fun caller => and_congr_right fun _ => includes_iff tell caller
  refine ⟨decided edits rfl, ?_, ?_⟩
  · unfold authorize
    cases list.grants principal permission <;> simp
  · exact Bool.eq_iff_iff.mpr ((decided edits rfl).trans (decided _ (AccessEdit.recent_filter permission edits)).symm)

end AccessList

end Switchboard

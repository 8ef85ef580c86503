/-
**Access lists.**

An access list maps a permission to the users and groups that hold it. A permission without an entry
is unrestricted and held by everybody if it is open; an entry without users and groups restricts the
permission to nobody.

* `AccessList.apply` — one edit of a list: grants make an entry, revocations never do and never
  remove one.
* `AccessList.grants` — whether a principal, or an anonymous caller, holds a permission.
* `AccessList.authorize` — the same as a check that fails.
-/

import Switchboard.Fault
import Switchboard.Table

namespace Switchboard

/-- A user together with the groups it belongs to. -/
structure Principal where
  userId : String
  groups : Names := ∅
  deriving DecidableEq

/-- The users and groups that hold a permission. -/
structure Grantees where
  users : Names := ∅
  groups : Names := ∅
  deriving DecidableEq

namespace Grantees

/-- Nobody holds the permission. -/
def isEmpty (grantees : Grantees) : Bool := grantees.users.isEmpty && grantees.groups.isEmpty

/-- The user or one of its groups is among the grantees. -/
def includes (grantees : Grantees) (principal : Principal) : Bool :=
  grantees.users.contains principal.userId ||
    principal.groups.any fun group => grantees.groups.contains group

end Grantees

/-- The restricted permissions of a feature or a property with their grantees. -/
structure AccessList where
  entries : Std.ExtTreeMap Permission Grantees := ∅
  deriving DecidableEq

/-- A change of an access list. -/
inductive AccessEdit where
  | grantUsers (permission : Permission) (ids : List String)
  | grantGroups (permission : Permission) (ids : List String)
  | revokeUsers (permission : Permission) (ids : List String)
  | revokeGroups (permission : Permission) (ids : List String)
  | restrict (permission : Permission)
  | clear (permission : Permission)
  deriving DecidableEq, Repr

namespace AccessList

/-- The grantees of a restricted permission. -/
def grantees? (list : AccessList) (permission : Permission) : Option Grantees :=
  list.entries[permission]?

/-- The permission has an entry. -/
def isRestricted (list : AccessList) (permission : Permission) : Bool :=
  list.entries.contains permission

/-- No permission has an entry. -/
def isEmpty (list : AccessList) : Bool := list.entries.isEmpty

/-- Changes the grantees of a permission, from nobody if it has no entry yet. -/
def grantWith (list : AccessList) (permission : Permission) (change : Grantees → Grantees) :
    AccessList :=
  ⟨list.entries.insert permission (change ((list.grantees? permission).getD {}))⟩

/-- Changes the grantees of a permission that has an entry. -/
def revokeWith (list : AccessList) (permission : Permission) (change : Grantees → Grantees) :
    AccessList :=
  match list.grantees? permission with
  | some grantees => ⟨list.entries.insert permission (change grantees)⟩
  | none => list

/-- The list after an edit. -/
def apply (list : AccessList) : AccessEdit → AccessList
  | .grantUsers permission ids =>
    list.grantWith permission fun grantees => { grantees with users := grantees.users.addAll ids }
  | .grantGroups permission ids =>
    list.grantWith permission fun grantees => { grantees with groups := grantees.groups.addAll ids }
  | .revokeUsers permission ids =>
    list.revokeWith permission fun grantees => { grantees with users := grantees.users.removeAll ids }
  | .revokeGroups permission ids =>
    list.revokeWith permission fun grantees =>
      { grantees with groups := grantees.groups.removeAll ids }
  | .restrict permission => list.grantWith permission id
  | .clear permission => ⟨list.entries.erase permission⟩

/-- The list after edits, one after the other. -/
def applyAll (list : AccessList) (edits : List AccessEdit) : AccessList := edits.foldl apply list

/-- A principal holds a permission; an anonymous caller holds only what is open and unrestricted. -/
def grants (list : AccessList) (principal : Option Principal) (permission : Permission) : Bool :=
  match list.grantees? permission with
  | none => permission.isOpen
  | some grantees => principal.any grantees.includes

/-- Fails for a principal that does not hold the permission on a target. -/
def authorize (list : AccessList) (principal : Option Principal) (permission : Permission)
    (target : String) : Except Fault Unit :=
  if list.grants principal permission then .ok () else .error (.accessDenied permission target)

end AccessList

end Switchboard

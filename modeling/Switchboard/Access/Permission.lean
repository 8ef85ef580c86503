/-
**Permissions.**

* `Permission.all` — the permissions in their order.
* `Permission.isOpen` — whether everybody holds a permission that nobody restricted: only the use of
  a feature is open.
* `Permission.ofName?` — the permission with a name, in any case of the letters.
-/

import Std.Data.ExtTreeMap
import Switchboard.Text.Blank

namespace Switchboard

/-- What a principal may do with a feature or a property. -/
inductive Permission where
  | use
  | read
  | create
  | update
  | delete
  | toggle
  | editPermissions
  | viewAudit
  deriving DecidableEq, Repr

namespace Permission

/-- The permissions in their order. -/
def all : List Permission :=
  [use, read, create, update, delete, toggle, editPermissions, viewAudit]

/-- The place of a permission in the order. -/
def index : Permission → Nat
  | use => 0
  | read => 1
  | create => 2
  | update => 3
  | delete => 4
  | toggle => 5
  | editPermissions => 6
  | viewAudit => 7

theorem index_injective {left right : Permission} (same : left.index = right.index) :
    left = right := by
  revert same
  cases left <;> cases right <;> decide

instance : Ord Permission := ⟨fun left right => compare left.index right.index⟩

theorem compare_def (left right : Permission) : compare left right = compare left.index right.index :=
  rfl

instance : Std.TransOrd Permission where
  eq_swap {left right} := by
    simp only [compare_def]
    exact Std.OrientedCmp.eq_swap
  isLE_trans {left middle right} first second := by
    simp only [compare_def] at *
    exact Std.TransCmp.isLE_trans first second

instance : Std.LawfulEqOrd Permission where
  compare_self {permission} := by
    simp only [compare_def]
    exact Std.ReflCmp.compare_self
  eq_of_compare {left right} same := by
    simp only [compare_def] at same
    exact index_injective (Std.LawfulEqCmp.eq_of_compare same)

/-- The name of a permission. -/
def name : Permission → String
  | use => "USE"
  | read => "READ"
  | create => "CREATE"
  | update => "UPDATE"
  | delete => "DELETE"
  | toggle => "TOGGLE"
  | editPermissions => "EDIT_PERMISSIONS"
  | viewAudit => "VIEW_AUDIT"

/-- Everybody holds the permission as long as nobody restricted it. -/
def isOpen : Permission → Bool
  | use => true
  | _ => false

/-- The permission with a name, in any case of the letters. -/
def ofName? (text : String) : Option Permission :=
  all.find? fun permission => Text.equalIgnoringCase permission.name text

/-- What is said about a text that names no permission. -/
def unknownMessage (text : String) : String := "unknown permission: " ++ text

end Permission

end Switchboard

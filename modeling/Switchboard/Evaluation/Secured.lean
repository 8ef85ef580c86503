/-
**Features behind their access lists.**

A principal changes a feature only as the access list stored with it allows: toggling needs TOGGLE,
deleting DELETE, updating UPDATE and, if the access list itself changes, EDIT_PERMISSIONS as well;
edits of the access list need EDIT_PERMISSIONS.

* `Secured.handle` — the calls that a principal can make.
-/

import Switchboard.Repository.Call

namespace Switchboard

/-- A call of a principal. -/
inductive SecuredCall where
  | setEnabled (id : String) (enabled : Bool)
  | update (feature : Feature)
  | delete (id : String)
  | edit (id : String) (edit : AccessEdit)

namespace Secured

variable {σ : Type}

/-- The feature as stored, if the principal holds a permission on it. -/
def authorized (features : FeatureHandler σ) (principal : Principal) (id : String)
    (permission : Permission) : Act σ Feature := do
  let feature ← features (.store (.fetch id))
  Act.lift (feature.acl.authorize (some principal) permission id)
  pure feature

/-- The calls that a principal can make. -/
def handle (features : FeatureHandler σ) (principal : Principal) : SecuredCall → Act σ Unit
  | .setEnabled id enabled => do
    let _ ← authorized features principal id .toggle
    features (.setEnabled id enabled)
  | .update feature => do
    let stored ← authorized features principal feature.id .update
    if stored.acl ≠ feature.acl then
      Act.lift (stored.acl.authorize (some principal) .editPermissions feature.id)
    features (.store (.update feature))
  | .delete id => do
    let _ ← authorized features principal id .delete
    features (.store (.delete id))
  | .edit id edit => do
    let feature ← authorized features principal id .editPermissions
    features (.store (.update (feature.withEdit (← Act.now) edit)))

end Secured

end Switchboard

/-
**Faults.**

* `isIdentifier` — one to 255 characters, none of them blank or a control character.
* `Fault` — why an operation on features or properties failed.
* `Fault.message` — its wording.
* `Fault.isRetryable` — the same call may succeed later; `Fault.isNotFound` — something is missing.
* `checkIdentifier` — fails for a text that is no identifier.
-/

import Switchboard.Access.Permission
import Switchboard.Text.Quoted

namespace Switchboard

/-- The largest number of characters of an identifier. -/
def identifierMaxLength : Nat := 255

/-- The text can name an entity or a group. -/
def isIdentifier (text : String) : Bool :=
  !text.isEmpty && text.length ≤ identifierMaxLength &&
    text.toList.all fun c => !Text.isBlank c && !Text.isControl c

/-- What a fault can be about. -/
inductive EntityKind where
  | feature
  | property
  | group
  deriving DecidableEq, Repr

/-- The name of a kind. -/
def EntityKind.name : EntityKind → String
  | .feature => "feature"
  | .property => "property"
  | .group => "group"

/-- Why an operation failed. -/
inductive Fault where
  | notFound (kind : EntityKind) (id : String)
  | alreadyExists (kind : EntityKind) (id : String)
  | accessDenied (permission : Permission) (id : String)
  | storeUnavailable (reason : String)
  | invalidStrategy (strategy reason : String)
  | invalidIdentifier (text : String)
  | invalidPropertyValue (id reason : String)
  | internal (reason : String)
  deriving DecidableEq, Repr

namespace Fault

/-- The wording of a fault. -/
def message : Fault → String
  | notFound kind id => kind.name ++ " not found: " ++ id
  | alreadyExists kind id => kind.name ++ " already exists: " ++ id
  | accessDenied permission id => "access denied: " ++ permission.name ++ " on " ++ id
  | storeUnavailable reason => "backing store unavailable: " ++ reason
  | invalidStrategy strategy reason =>
    "invalid strategy configuration for '" ++ strategy ++ "': " ++ reason
  | invalidIdentifier text => "invalid identifier: " ++ Text.quoted text
  | invalidPropertyValue id reason => "invalid value for property " ++ id ++ ": " ++ reason
  | internal reason => "internal error: " ++ reason

/-- The same call may succeed later. -/
def isRetryable : Fault → Bool
  | storeUnavailable _ => true
  | _ => false

/-- Something is missing. -/
def isNotFound : Fault → Bool
  | notFound _ _ => true
  | _ => false

end Fault

/-- Fails unless a text is an identifier. -/
def checkIdentifier (text : String) : Except Fault Unit :=
  if isIdentifier text then .ok () else .error (.invalidIdentifier text)

end Switchboard

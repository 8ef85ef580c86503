/-
**Notices.**

What listeners are told about is data: a notice for every change of a repository, and one for every
check that finds a feature on.

* `StoreNotice`, `FeatureNotice`, `PropertyNotice` — the notices of a repository.
* `Notice` — a notice about features or about properties; `Notice.line` — the line for it.
-/

import Switchboard.Context
import Switchboard.Feature

namespace Switchboard

/-- A change of any repository. -/
inductive StoreNotice (E : Type) where
  | created (entity : E)
  | updated (entity : E)
  | deleted (id : String)
  | allDeleted
  | prepared
  deriving DecidableEq

/-- A change of a repository of features, or the use of a feature. -/
inductive FeatureNotice where
  | store (notice : StoreNotice Feature)
  | toggled (id : String) (enabled : Bool)
  | addedToGroup (id group : String)
  | removedFromGroup (id group : String)
  | used (id : String) (context : Context)
  deriving DecidableEq

/-- A change of a repository of properties. -/
abbrev PropertyNotice := StoreNotice Property

/-- A notice about features or about properties. -/
inductive Notice where
  | feature (notice : FeatureNotice)
  | property (notice : PropertyNotice)
  deriving DecidableEq

/-- The line for a change of a repository. -/
def StoreNotice.line {E : Type} [Entity E] : StoreNotice E → String
  | .created entity => "create " ++ Entity.id entity ++ " " ++ Entity.summary entity
  | .updated entity => "update " ++ Entity.id entity ++ " " ++ Entity.summary entity
  | .deleted id => "delete " ++ id
  | .allDeleted => "delete_all"
  | .prepared => "create_schema"

/-- The line for a notice. -/
def Notice.line : Notice → String
  | .feature (.store notice) => notice.line
  | .feature (.toggled id true) => "toggle_on " ++ id
  | .feature (.toggled id false) => "toggle_off " ++ id
  | .feature (.addedToGroup id group) => "add_to_group " ++ id ++ " " ++ group
  | .feature (.removedFromGroup id group) => "remove_from_group " ++ id ++ " " ++ group
  | .feature (.used id context) =>
    "used " ++ id ++ " " ++ (context.principal.map Principal.userId).getD "-" ++ " " ++
      Text.join "," context.keys
  | .property notice => notice.line

end Switchboard

/-
**Calls of repositories.**

What can be asked of a repository is data, and so is the type of the reply to a call.

* `StoreCall` — what every repository of entities answers.
* `FeatureCall`, `PropertyCall` — the calls that features and properties add.
* `found` — a missing entity is a fault.
-/

import Switchboard.Act
import Switchboard.Feature

namespace Switchboard

/-- What every repository of entities answers. `read` may be answered from a copy, `fetch` asks the
source of truth. -/
inductive StoreCall (E : Type) where
  | has (id : String)
  | find (id : String)
  | read (id : String)
  | fetch (id : String)
  | all
  | create (entity : E)
  | update (entity : E)
  | delete (id : String)
  | save (entities : List E)
  | deleteAll
  | count
  | prepare

/-- The type of the reply to a call. -/
abbrev StoreCall.Reply {E : Type} : StoreCall E → Type
  | has _ => Bool
  | find _ => Option E
  | read _ | fetch _ => E
  | all => List E
  | count => Nat
  | create _ | update _ | delete _ | save _ | deleteAll | prepare => Unit

/-- What a repository of features answers. -/
inductive FeatureCall where
  | store (call : StoreCall Feature)
  | setEnabled (id : String) (enabled : Bool)
  | addToGroup (id group : String)
  | removeFromGroup (id group : String)
  | hasGroup (group : String)
  | readGroup (group : String)
  | groups
  | setGroupEnabled (group : String) (enabled : Bool)

/-- The type of the reply to a call. -/
abbrev FeatureCall.Reply : FeatureCall → Type
  | store call => call.Reply
  | hasGroup _ => Bool
  | readGroup _ => List Feature
  | groups => Names
  | setEnabled _ _ | addToGroup _ _ | removeFromGroup _ _ | setGroupEnabled _ _ => Unit

/-- What a repository of properties answers. -/
inductive PropertyCall where
  | store (call : StoreCall Property)
  | setValue (id raw : String)

/-- The type of the reply to a call. -/
abbrev PropertyCall.Reply : PropertyCall → Type
  | store call => call.Reply
  | setValue _ _ => Unit

/-- A handler of the calls of every repository of entities. -/
abbrev StoreHandler (E σ : Type) := Handler (StoreCall.Reply (E := E)) σ

/-- A handler of the calls of a repository of features. -/
abbrev FeatureHandler (σ : Type) := Handler FeatureCall.Reply σ

/-- A handler of the calls of a repository of properties. -/
abbrev PropertyHandler (σ : Type) := Handler PropertyCall.Reply σ

/-- The entity that was found, or the fault that it is missing. -/
def found {E : Type} [Entity E] (id : String) : Option E → Except Fault E
  | some entity => .ok entity
  | none => .error (.notFound (Entity.kind E) id)

end Switchboard

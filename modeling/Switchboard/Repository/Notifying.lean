/-
**Repositories that report changes.**

* `Notifying.store`, `Notifying.features`, `Notifying.properties` — a repository that hands every call
  to the one below it and, once a change has succeeded, submits a notice of it: one notice per entity
  of a batch and per member of a group. A value that was set is reported as an update that carries the
  property as stored.
* `Silent.handle` — the same state without any notice.
-/

import Switchboard.Notice
import Switchboard.Repository.Call

namespace Switchboard

/-- A state with the notices submitted so far, the oldest first. -/
structure Notified (N σ : Type) where
  submitted : List N := []
  below : σ

namespace Notified

variable {N σ α : Type}

/-- An action below the notices. -/
def under (action : Act σ α) : Act (Notified N σ) α :=
  Act.onPart Notified.below (fun below state => { state with below }) action

/-- Submits notices. -/
def submit (notices : List N) : Act (Notified N σ) Unit :=
  modify fun state => { state with submitted := state.submitted ++ notices }

end Notified

namespace Notifying

open Notified

variable {E N σ : Type} [Entity E]

/-- The calls of a repository, with a notice of every change. -/
def store (notice : StoreNotice E → N) (inner : StoreHandler E σ) : StoreHandler E (Notified N σ)
  | .has id => under (inner (.has id))
  | .find id => under (inner (.find id))
  | .read id => do Act.lift (found id (← under (inner (.find id))))
  | .fetch id => under (inner (.fetch id))
  | .all => under (inner .all)
  | .count => under (inner .count)
  | .create entity => do
    under (inner (.create entity))
    submit [notice (.created entity)]
  | .update entity => do
    under (inner (.update entity))
    submit [notice (.updated entity)]
  | .delete id => do
    under (inner (.delete id))
    submit [notice (.deleted id)]
  | .save entities => do
    under (inner (.save entities))
    submit (entities.map fun entity => notice (.updated entity))
  | .deleteAll => do
    under (inner .deleteAll)
    submit [notice .allDeleted]
  | .prepare => do
    under (inner .prepare)
    submit [notice .prepared]

/-- The calls of a repository of features, with a notice of every change. -/
def features (inner : FeatureHandler σ) : FeatureHandler (Notified FeatureNotice σ)
  | .store call => store FeatureNotice.store (fun call => inner (.store call)) call
  | .setEnabled id enabled => do
    under (inner (.setEnabled id enabled))
    submit [.toggled id enabled]
  | .addToGroup id group => do
    under (inner (.addToGroup id group))
    submit [.addedToGroup id group]
  | .removeFromGroup id group => do
    under (inner (.removeFromGroup id group))
    submit [.removedFromGroup id group]
  | .hasGroup group => under (inner (.hasGroup group))
  | .readGroup group => under (inner (.readGroup group))
  | .groups => under (inner .groups)
  | .setGroupEnabled group enabled => do
    let members ← under (inner (.readGroup group))
    under (inner (.setGroupEnabled group enabled))
    submit (members.map fun member => .toggled member.id enabled)

/-- The calls of a repository of properties, with a notice of every change. -/
def properties (inner : PropertyHandler σ) : PropertyHandler (Notified PropertyNotice σ)
  | .store call => store id (fun call => inner (.store call)) call
  | .setValue id raw => do
    under (inner (.setValue id raw))
    let property ← under (inner (.store (.fetch id)))
    submit [.updated property]

end Notifying

/-- Every call goes below without a notice. -/
def Silent.handle {N σ C : Type} {Reply : C → Type} (inner : Handler Reply σ) :
    Handler Reply (Notified N σ) := fun call => Notified.under (inner call)

end Switchboard

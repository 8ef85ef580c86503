/-
**What calls report.**

* `StoreCall.isWrite`, `FeatureCall.isWrite`, `PropertyCall.isWrite` — the calls that change a repository.
* `StoreCall.notices`, `FeatureCall.notices`, `PropertyCall.notices` — the notices of a call: one for each
  entity of a batch and each member of a group, none for a read.
* `Notifying.Reports` — a call is made of a repository below, and if it succeeds there, its notices are
  submitted: so are all calls but those that ask the repository below twice (`Notifying.reports_store`,
  `Notifying.reports_features`, `Notifying.reports_properties`).
-/

import Switchboard.Proofs.Action.Perform
import Switchboard.Repository.Notifying

namespace Switchboard

open Act

/-! ### Writes and their notices -/

/-- A call changes a repository. -/
def StoreCall.isWrite {E : Type} : StoreCall E → Bool
  | create _ | update _ | delete _ | save _ | deleteAll | prepare => true
  | has _ | find _ | read _ | fetch _ | all | count => false

/-- A call changes a repository. -/
def FeatureCall.isWrite : FeatureCall → Bool
  | store call => call.isWrite
  | setEnabled _ _ | addToGroup _ _ | removeFromGroup _ _ | setGroupEnabled _ _ => true
  | hasGroup _ | readGroup _ | groups => false

/-- A call changes a repository. -/
def PropertyCall.isWrite : PropertyCall → Bool
  | store call => call.isWrite
  | setValue _ _ => true

/-- The notices of a call. -/
def StoreCall.notices {E : Type} : StoreCall E → List (StoreNotice E)
  | create entity => [.created entity]
  | update entity => [.updated entity]
  | delete id => [.deleted id]
  | save entities => entities.map .updated
  | deleteAll => [.allDeleted]
  | prepare => [.prepared]
  | has _ | find _ | read _ | fetch _ | all | count => []

/-- The notices of a call, given the members of the group that it is about. -/
def FeatureCall.notices (members : List Feature) : FeatureCall → List FeatureNotice
  | store call => call.notices.map .store
  | setEnabled id enabled => [.toggled id enabled]
  | addToGroup id group => [.addedToGroup id group]
  | removeFromGroup id group => [.removedFromGroup id group]
  | setGroupEnabled _ enabled => members.map fun member => .toggled member.id enabled
  | hasGroup _ | readGroup _ | groups => []

/-- The notices of a call, given the property that is stored after it. -/
def PropertyCall.notices (stored : Option Property) : PropertyCall → List PropertyNotice
  | store call => call.notices
  | setValue _ _ => stored.toList.map .updated

/-- A read has no notices. -/
theorem StoreCall.notices_of_read {E : Type} {call : StoreCall E} (read : call.isWrite = false) :
    call.notices = [] := by
  cases call with
  | has | find | read | fetch | all | count => rfl
  | _ => cases read

/-- A read has no notices. -/
theorem FeatureCall.notices_of_read {call : FeatureCall} (read : call.isWrite = false)
    (members : List Feature) : call.notices members = [] := by
  cases call with
  | store call => exact congrArg (List.map FeatureNotice.store) (StoreCall.notices_of_read read)
  | hasGroup | readGroup | groups => rfl
  | _ => cases read

/-- A read has no notices. -/
theorem PropertyCall.notices_of_read {call : PropertyCall} (read : call.isWrite = false)
    (stored : Option Property) : call.notices stored = [] := by
  cases call with
  | store call => exact StoreCall.notices_of_read read
  | setValue => cases read

/-! ### Calls above a repository -/

namespace Notified

variable {N σ α : Type} {moment : Moment} {state : Notified N σ}

/-- Notices that are submitted after an outcome: none after a fault. -/
def reported (notices : List N) : Except Fault α → List N
  | .ok _ => notices
  | .error _ => []

@[simp]
theorem perform_under (action : Act σ α) :
    (under action).perform moment state =
      ((action.perform moment state.below).1,
        { state with below := (action.perform moment state.below).2 }) := rfl

@[simp]
theorem perform_submit (notices : List N) :
    (submit notices : Act (Notified N σ) Unit).perform moment state =
      (.ok (), { state with submitted := state.submitted ++ notices }) := rfl

/-- **An action below that is reported.** -/
theorem perform_reported (action : Act σ Unit) (notices : List N) :
    (do under action; submit notices).perform moment state =
      ((action.perform moment state.below).1,
        { submitted := state.submitted ++ reported notices (action.perform moment state.below).1
          below := (action.perform moment state.below).2 }) := by
  rw [perform_bind, perform_under]
  cases (action.perform moment state.below).1 with
  | ok done => rfl
  | error fault =>
    show (Except.error fault, _) = (Except.error fault, _)
    rw [reported, List.append_nil]

theorem reported_nil (outcome : Except Fault α) : reported [] outcome = ([] : List N) := by
  cases outcome <;> rfl

theorem under_eq_reported (action : Act σ α) :
    (under action).perform moment state =
      ((action.perform moment state.below).1,
        { submitted := state.submitted ++ reported [] (action.perform moment state.below).1
          below := (action.perform moment state.below).2 }) := by
  rw [perform_under, reported_nil, List.append_nil]

end Notified

namespace Notifying

open Notified

variable {E N σ : Type} [Entity E] {moment : Moment}

/-- An action is made below, and if it succeeds there, notices are submitted. -/
def Reports {α : Type} (above : Act (Notified N σ) α) (below : Act σ α) (notices : List N) : Prop :=
  ∀ moment state, above.perform moment state =
    ((below.perform moment state.below).1,
      { submitted := state.submitted ++ reported notices (below.perform moment state.below).1
        below := (below.perform moment state.below).2 })

theorem reports_store (notice : StoreNotice E → N) (inner : StoreHandler E σ) {call : StoreCall E}
    (whole : ∀ id, call ≠ .read id) :
    Reports (store notice inner call) (inner call) (call.notices.map notice) := by
  intro moment state
  cases call with
  | read id => exact absurd rfl (whole id)
  | save entities =>
    rw [StoreCall.notices, List.map_map]
    exact perform_reported _ _
  | create | update | delete | deleteAll | prepare => exact perform_reported _ _
  | has | find | fetch | all | count => exact under_eq_reported _

theorem reports_features (inner : FeatureHandler σ) {call : FeatureCall}
    (whole : ∀ id, call ≠ .store (.read id))
    (single : ∀ group enabled, call ≠ .setGroupEnabled group enabled) :
    Reports (features inner call) (inner call) (call.notices []) := by
  cases call with
  | store call =>
    exact reports_store FeatureNotice.store (fun call => inner (.store call)) fun id read =>
      whole id (congrArg FeatureCall.store read)
  | setEnabled | addToGroup | removeFromGroup => exact fun _ _ => perform_reported _ _
  | hasGroup | readGroup | groups => exact fun _ _ => under_eq_reported _
  | setGroupEnabled group enabled => exact absurd rfl (single group enabled)

theorem reports_properties (inner : PropertyHandler σ) {call : StoreCall Property}
    (whole : ∀ id, call ≠ .read id) :
    Reports (properties inner (.store call)) (inner (.store call)) call.notices := by
  have reports := reports_store (id : PropertyNotice → PropertyNotice) (fun call => inner (.store call)) whole
  rw [List.map_id] at reports
  exact reports

end Notifying

end Switchboard

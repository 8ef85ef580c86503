/-
**No principal gains rights.**

Principals call a repository of features in any order, while its cache comes to hold anything and its
store goes offline and comes back.

* `SecuredStep`, `Secured.run` — what happens, and what such steps leave.
* `Secured.list_of_run` — as long as no principal is granted edits of the permissions of a feature, the
  access list that is stored with it stays the same.
* `Secured.principals_never_escalate` — this, that a single call changes only what the access list stored
  at that time grants, and that a call that fails changes nothing.
-/

import Switchboard.Proofs.Secured.Calls

namespace Switchboard

open Act

/-- What happens to a repository of features: a call of a principal, the cache coming to hold anything,
and the store going offline or online. -/
inductive SecuredStep where
  | call (moment : Moment) (principal : Principal) (call : SecuredCall)
  | recache (cache : Cache Feature)
  | setOnline (online : Bool)

/-- A call of a step is made by one of some principals. -/
def SecuredStep.IsBy (principals : Principal → Prop) : SecuredStep → Prop
  | call _ principal _ => principals principal
  | recache _ | setOnline _ => True

namespace Secured

/-- The repository after a step. -/
def step (layers : Layers) (layered : Layered Feature FeatureNotice) :
    SecuredStep → Layered Feature FeatureNotice
  | .call moment principal call =>
    ((handle (Layered.features layers) principal call).perform moment layered).2
  | .recache cache => { layered with below := { layered.below with cache } }
  | .setOnline online =>
    { layered with below := { layered.below with below := { layered.backend with online } } }

/-- The repository after steps, one after the other. -/
def run (layers : Layers) (layered : Layered Feature FeatureNotice) (steps : List SecuredStep) :
    Layered Feature FeatureNotice :=
  steps.foldl (step layers) layered

variable {layers : Layers} {layered : Layered Feature FeatureNotice}

theorem keyed_step (keyed : layered.backend.store.Keyed) (next : SecuredStep) :
    (step layers layered next).backend.store.Keyed := by
  cases next with
  | call moment principal call =>
    exact (layered_allowed layers keyed moment principal call).keyed keyed
  | recache cache => exact keyed
  | setOnline online => exact keyed

theorem keyed_run (keyed : layered.backend.store.Keyed) (steps : List SecuredStep) :
    (run layers layered steps).backend.store.Keyed := by
  induction steps generalizing layered with
  | nil => exact keyed
  | cons next rest ih => exact ih (keyed_step keyed next)

/-- A feature that is stored has a given access list. -/
def KeepsList (id : String) (list : AccessList) (store : Store Feature) : Prop :=
  ∀ kept, store.find? id = some kept → kept.acl = list

/-- **A change that is allowed** to a principal who may not edit permissions leaves the access list. -/
theorem keepsList_of_allowed {principal : Principal} {call : SecuredCall} {before after : Store Feature}
    {id : String} {list : AccessList} (allowed : Allowed principal call before after)
    (barred : list.grants (some principal) .editPermissions = false)
    (keeps : KeepsList id list before) : KeepsList id list after := by
  rcases allowed with rfl | ⟨⟨stored, found, granted, replaced⟩, frame⟩
  · exact keeps
  · by_cases same : call.target = id
    · subst same
      -- The list that authorized the call is the given one, which bars edits of permissions.
      have unneeded : .editPermissions ∉ call.needs stored := by
        intro needed
        have held := granted _ needed
        rw [keeps stored found, barred] at held
        cases held
      intro kept later
      rw [(replaced kept later).2, SecuredCall.listAfter_of_not_needs unneeded]
      exact keeps stored found
    · intro kept later
      rw [frame id same] at later
      exact keeps kept later

theorem list_of_run {id : String} {list : AccessList} {principals : Principal → Prop}
    (keyed : layered.backend.store.Keyed) (keeps : KeepsList id list layered.backend.store)
    (barred : ∀ principal, principals principal → list.grants (some principal) .editPermissions = false)
    (steps : List SecuredStep) (by_them : ∀ next ∈ steps, next.IsBy principals) :
    KeepsList id list (run layers layered steps).backend.store := by
  induction steps generalizing layered with
  | nil => exact keeps
  | cons next rest ih =>
    have kept : KeepsList id list (step layers layered next).backend.store := by
      cases next with
      | call moment principal call =>
        exact keepsList_of_allowed (layered_allowed layers keyed moment principal call)
          (barred principal (by_them _ List.mem_cons_self)) keeps
      | recache cache => exact keeps
      | setOnline online => exact keeps
    exact ih (keyed_step keyed next) kept fun later listed =>
      by_them later (List.mem_cons_of_mem _ listed)

/-- **No principal gains rights.** After any steps from a keyed store: (1) an access list that grants none
of the acting principals the edit of permissions is still the one stored; (2) a call changes a feature
only if the access list stored with it grants the principal what the call needs; (3) a call that fails,
for want of a permission or for any other reason, changes nothing and submits no notice. -/
theorem principals_never_escalate (layers : Layers) {layered : Layered Feature FeatureNotice}
    (keyed : layered.backend.store.Keyed) (steps : List SecuredStep) :
    (∀ id feature (principals : Principal → Prop), layered.backend.store.find? id = some feature →
      (∀ principal, principals principal →
        feature.acl.grants (some principal) .editPermissions = false) →
      (∀ next ∈ steps, next.IsBy principals) →
      ∀ later, (run layers layered steps).backend.store.find? id = some later →
        later.acl = feature.acl) ∧
    ∀ moment principal call,
      let before := run layers layered steps
      let performed := (handle (Layered.features layers) principal call).perform moment before
      (∀ id, performed.2.backend.store.find? id ≠ before.backend.store.find? id →
        call.target = id ∧ ∃ stored, before.backend.store.find? id = some stored ∧
          ∀ permission ∈ call.needs stored,
            stored.acl.grants (some principal) permission = true) ∧
      ∀ fault, performed.1 = .error fault → Layered.Untouched before performed.2 := by
  refine ⟨?_, fun moment principal call => ⟨?_, ?_⟩⟩
  · intro id feature principals stored barred by_them
    refine list_of_run keyed ?_ barred steps by_them
    intro kept found
    cases stored.symm.trans found
    rfl
  · intro id changed
    rcases layered_allowed layers (keyed_run keyed steps) moment principal call with
      same | ⟨⟨stored, found, granted, _⟩, frame⟩
    · exact absurd (congrArg (Store.find? · id) same) changed
    · by_cases target : call.target = id
      · subst target
        exact ⟨rfl, stored, found, granted⟩
      · exact absurd (frame id target) changed
  · exact fun fault fails => atomic layers principal call moment _ fault fails

/-- Eve may toggle and update a lamp. She toggles it; then, while the cache takes the lamp for one with an
empty access list, she is refused an update to this list. -/
theorem eve_never_escalates :
    let list := ({} : AccessList).applyAll [.grantUsers .toggle ["eve"], .grantUsers .update ["eve"]]
    let lamp := { Feature.new "lamp" .epoch with acl := list }
    let eve : Principal := { userId := "eve" }
    let layers : Layers := { cached := true, notifying := true }
    let layered : Layered Feature FeatureNotice := Layered.new (Store.empty.insert lamp) 10 4 (fun _ => 0)
    let steps : List SecuredStep :=
      [.call ⟨1, .epoch⟩ eve (.setEnabled "lamp" true),
        .recache ((Cache.new 10 4 (fun _ => 0)).put 1 "lamp" (Feature.new "lamp" .epoch) none)]
    let before := run layers layered steps
    let update := (handle (Layered.features layers) eve (.update (Feature.new "lamp" .epoch))).perform
      ⟨2, .epoch⟩ before
    layered.backend.store.Keyed ∧ layered.backend.store.find? "lamp" = some lamp ∧
      lamp.acl.grants (some eve) .editPermissions = false ∧
      (∀ later, before.backend.store.find? "lamp" = some later → later.acl = list) ∧
      update.1 = .error (.accessDenied .editPermissions "lamp") ∧ Layered.Untouched before update.2 := by
  intro list lamp eve layers layered steps before update
  have keyed : layered.backend.store.Keyed := Store.keyed_empty.insert lamp
  have stored : layered.backend.store.find? "lamp" = some lamp := by
    dsimp only [layered, lamp, list]
    rfl
  have barred : lamp.acl.grants (some eve) .editPermissions = false := by decide
  have by_eve : ∀ next ∈ steps, next.IsBy fun principal => principal = eve := by
    intro next listed
    simp only [steps, List.mem_cons, List.not_mem_nil, or_false] at listed
    rcases listed with rfl | rfl
    · rfl
    · trivial
  have denied : update.1 = .error (.accessDenied .editPermissions "lamp") := by
    dsimp only [update, before, steps, layered, layers, eve, lamp, list]
    rfl
  obtain ⟨kept, single⟩ := principals_never_escalate layers keyed steps
  refine ⟨keyed, stored, barred, ?_, denied, (single ⟨2, .epoch⟩ eve _).2 _ denied⟩
  refine kept "lamp" lamp (fun principal => principal = eve) stored ?_ by_eve
  rintro principal rfl
  exact barred

end Secured

end Switchboard

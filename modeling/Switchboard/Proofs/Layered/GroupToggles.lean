/-
**Switching a group is switching its members.**

A group is switched by one batch behind a cleared cache and told member by member; each of its members can be switched
by itself just as well. Nobody can tell which was done, but by the times of the updates.

* `Layered.Founded` — the repositories that come to be from a store as it is made, through all layers. What they keep
  has passed its check (`Layered.Founded.checked`).
* `Handler.AllSucceed` — calls that succeed one after the other.
* `Layered.AlikeButUpdates` — two repositories that no call can tell apart, but by the times of updates.
* `Layered.GroupSwitched` — what switching a group changes, and what it leaves.
* `Layered.Mirrors.switchEach` — members are switched one after the other, and every one is told.
* `Layered.group_is_switched_as_its_members` — so the group is switched.
-/

import Switchboard.Proofs.Evaluation.BulkChecks
import Switchboard.Proofs.Repository.GroupToggles

namespace Switchboard

open Act

/-- Every one of the calls succeeds, one after the other, each at its moment. -/
def Handler.AllSucceed {C σ : Type} {Reply : C → Type} (handler : Handler Reply σ) (state : σ) :
    List (Moment × C) → Prop
  | [] => True
  | (moment, call) :: rest =>
    (∃ reply, ((handler call).perform moment state).1 = .ok reply) ∧
      handler.AllSucceed ((handler call).perform moment state).2 rest

namespace Layered

/-! ### Repositories that come to be from a store as it is made -/

/-- The repositories that come to be from one over a store as it is made by operations through all layers, while the
cache is reloaded or drops entries and the store goes offline and online. -/
inductive Founded : Layered Feature FeatureNotice → Prop
  | new {store : Store Feature} (built : store.Built) (lifetime maxEntries : Nat) (ties : Nat → Nat) :
    Founded (Layered.new store lifetime maxEntries ties)
  | operation {layered : Layered Feature FeatureNotice} (founded : Founded layered) (moment : Moment)
    (operation : FeatureOperation) : Founded (operation.handle.perform moment layered).2
  | reload {layered : Layered Feature FeatureNotice} (founded : Founded layered) (moment : Moment) :
    Founded ((belowNotices (Caching.reload Backend.handle)).perform moment layered).2
  | drop {layered : Layered Feature FeatureNotice} (founded : Founded layered) {cache : Cache Feature}
    (within : cache.Within layered.cache) : Founded { layered with below := { layered.below with cache } }
  | setOnline {layered : Layered Feature FeatureNotice} (founded : Founded layered) (online : Bool) :
    Founded { layered with below := { layered.below with below := { layered.backend with online } } }

variable {layered bulk each : Layered Feature FeatureNotice} {store : Store Feature}

theorem Founded.reachable (founded : Founded layered) : Reachable allLayers layered := by
  induction founded with
  | new built lifetime maxEntries ties => exact .new built.keyed lifetime maxEntries ties
  | operation founded moment operation reached =>
    rw [← FeatureOperation.through_allLayers]
    exact reached.operation moment operation
  | reload founded moment reached => exact reached.reload moment
  | drop founded within reached => exact reached.drop within
  | setOnline founded online reached => exact reached.setOnline online

/-- Every call keeps a store checked. -/
theorem checked_features (call : FeatureCall) :
    Keeps (fun layered => layered.backend.store.Checked) (features allLayers call) := by
  intro moment layered checked
  by_cases copy : call.FromCopy
  · cases call with
    | store call => exact (copy_untold FeatureNotice.store moment layered copy).1 ▸ checked
    | _ => exact copy.elim
  · rcases answered_cases Backend.features_answers (features_over allLayers copy) moment layered with
      ⟨_, store⟩ | ⟨_, store⟩
    · exact store ▸ (Store.continues_features call moment layered.backend.store).checked checked
    · exact store ▸ checked

/-- **What such a repository keeps has passed its check.** -/
theorem Founded.checked (founded : Founded layered) : layered.backend.store.Checked := by
  induction founded with
  | new built lifetime maxEntries ties => exact built.checked
  | operation founded moment operation checked =>
    rw [← FeatureOperation.through_allLayers]
    exact operation_leads (fun _ checked => checked) (fun _ _ _ early late checked => late (early checked))
      checked_features (fun _ _ _ _ checked => checked) operation moment _ checked
  | @reload layered founded moment checked =>
    have kept : ((Caching.reload Backend.handle).perform moment layered.below).2.below.store =
        layered.backend.store := by
      rw [Caching.below_reload, Backend.store_counted]
      rfl
    exact kept ▸ checked
  | drop founded within checked => exact checked
  | setOnline founded online checked => exact checked

/-! ### Later calls -/

/-- What mirrors a store, mirrors it after a run of calls. -/
theorem Mirrors.run {layers : Layers} (mirrors : Mirrors layers layered store) (calls : List (Moment × FeatureCall)) :
    Mirrors layers (Handler.run (features layers) layered calls)
      (Handler.run (Repository.features Store.handle) store calls) := by
  induction calls generalizing layered store with
  | nil => exact mirrors
  | cons step rest ih => exact ih (features_mirror layers step.2 step.1 layered store mirrors).2

/-- Two repositories keep the same, but for the times of updates, and submitted the same notices; after any calls, they
answer every call with the same, but for these times. -/
structure AlikeButUpdates (left right : Layered Feature FeatureNotice) : Prop where
  store : left.backend.store.undated = right.backend.store.undated
  submitted : left.submitted = right.submitted
  answers : ∀ (calls : List (Moment × FeatureCall)) (moment : Moment) (call : FeatureCall),
    ((features allLayers call).perform moment (Handler.run (features allLayers) left calls)).1.map call.undated =
      ((features allLayers call).perform moment (Handler.run (features allLayers) right calls)).1.map call.undated

/-- Repositories that mirror stores which are the same but for the times of updates answer with the same, but for these
times. -/
theorem alike_of_mirrors {other : Store Feature} (mirrors : Mirrors allLayers bulk store)
    (mirrorsOther : Mirrors allLayers each other) (same : store.undated = other.undated)
    (submitted : bulk.submitted = each.submitted) : AlikeButUpdates bulk each where
  store := by
    have kept : bulk.backend.store = store := mirrors.store
    have keptOther : each.backend.store = other := mirrorsOther.store
    rw [kept, keptOther, same]
  submitted := submitted
  answers calls moment call := by
    have answered := (features_mirror allLayers call moment _ _ (mirrors.run calls)).1
    have answeredOther := (features_mirror allLayers call moment _ _ (mirrorsOther.run calls)).1
    rw [answered, answeredOther]
    exact (Repository.features_undated call moment _ _ (Repository.run_undated same calls)).1

/-! ### Members of a group -/

/-- What switching a group changes: its members are switched and keep everything else, but for the times of their
updates; what is kept of any other feature stays as it is, and none comes or goes. -/
structure GroupSwitched (group : String) (enabled : Bool) (before after : Store Feature) : Prop where
  members : ∀ id member, before.find? id = some member → member.inGroup group = true →
    ∃ kept, after.find? id = some kept ∧ kept.enabled = enabled ∧
      { kept with enabled := member.enabled, updatedAt := member.updatedAt } = member
  others : ∀ id, (∀ feature, before.find? id = some feature → feature.inGroup group = false) →
    after.find? id = before.find? id

/-- The members of a group in the order of their identifiers. -/
def membersOf (layered : Layered Feature FeatureNotice) (group : String) : List Feature :=
  layered.backend.store.toList.filter fun feature => feature.inGroup group

/-- The calls that switch features one after the other, each at its moment. -/
def toggles (clock : Feature → Moment) (enabled : Bool) (members : List Feature) : List (Moment × FeatureCall) :=
  members.map fun member => (clock member, .setEnabled member.id enabled)

/-- **The members of a group are switched one after the other.** -/
theorem groupSwitched_switchAll (keyed : store.Keyed) (checked : store.Checked) (group : String) (enabled : Bool)
    (times : Feature → Time.Instant) :
    GroupSwitched group enabled store
      (store.switchAll enabled times (store.toList.filter fun feature => feature.inGroup group)) := by
  constructor
  · intro id member found among
    have named : member.id = id := keyed id member found
    have listed : member ∈ store.toList.filter fun feature => feature.inGroup group :=
      List.mem_filter.mpr ⟨Store.mem_toList.mpr ⟨id, found⟩, among⟩
    refine ⟨member.withEnabled (times member) enabled, ?_, rfl, rfl⟩
    rw [← named]
    exact Store.find?_switchAll_member (Store.switchable_members keyed checked group).distinct listed
  · intro id outside
    refine Store.find?_switchAll_other fun member listed same => ?_
    obtain ⟨kept, among⟩ := List.mem_filter.mp listed
    have found : store.find? id = some member := same ▸ keyed.find?_of_mem kept
    rw [outside member found] at among
    cases among

/-- **Features are switched one after the other through all layers**, and every one is told. -/
theorem Mirrors.switchEach (mirrors : Mirrors allLayers layered store) {members : List Feature}
    (switchable : store.Switchable members) (clock : Feature → Moment) (enabled : Bool) :
    Handler.AllSucceed (features allLayers) layered (toggles clock enabled members) ∧
      Mirrors allLayers (Handler.run (features allLayers) layered (toggles clock enabled members))
        (store.switchAll enabled (fun member => (clock member).wall) members) ∧
      (Handler.run (features allLayers) layered (toggles clock enabled members)).submitted =
        layered.submitted ++ members.map fun member => .toggled member.id enabled := by
  induction members generalizing layered store with
  | nil => exact ⟨trivial, mirrors, (List.append_nil _).symm⟩
  | cons member rest ih =>
    have bare := Repository.perform_setEnabled (switchable.kept member List.mem_cons_self)
      (switchable.passed member List.mem_cons_self) enabled (clock member)
    obtain ⟨outcome, after⟩ := features_mirror allLayers (.setEnabled member.id enabled) (clock member) _ _ mirrors
    have told := submitted_features (clock member) layered (.setEnabled member.id enabled)
    rw [bare] at outcome after
    rw [outcome] at told
    obtain ⟨succeed, mirrored, submitted⟩ := ih after (switchable.rest (clock member).wall)
    refine ⟨⟨⟨(), outcome⟩, succeed⟩, mirrored, submitted.trans ?_⟩
    rw [told, List.append_assoc]
    rfl

/-- **Switching a group is switching its members.** In every repository that comes to be from a store as it is made,
with its store online: a group without members is not found, and nothing changes. Any other group is switched; so are
all of its members, one after the other in the order of their identifiers, whenever this is done. Both leave the same,
but for the times of updates, submit the same notices, and are followed by the same answers to all calls, but for these
times. The members keep everything but whether they are enabled and when they were updated, and any other feature
stays as it is. -/
theorem group_is_switched_as_its_members (founded : Founded layered) (online : layered.backend.online = true)
    (group : String) (enabled : Bool) (moment : Moment) (clock : Feature → Moment) :
    let members := layered.membersOf group
    let bulk := (features allLayers (.setGroupEnabled group enabled)).perform moment layered
    let each := Handler.run (features allLayers) layered (toggles clock enabled members)
    (members = [] → bulk.1 = .error (.notFound .group group) ∧ Untouched layered bulk.2) ∧
      (members ≠ [] → bulk.1 = .ok () ∧
        Handler.AllSucceed (features allLayers) layered (toggles clock enabled members) ∧
        AlikeButUpdates bulk.2 each ∧
        GroupSwitched group enabled layered.backend.store bulk.2.backend.store ∧
        GroupSwitched group enabled layered.backend.store each.backend.store) := by
  intro members bulk each
  have mirrors : Mirrors allLayers layered layered.backend.store := ⟨rfl, online, founded.reachable.coherent⟩
  have keyed : layered.backend.store.Keyed := mirrors.coherent.keyed
  have bare := Repository.perform_setGroupEnabled keyed founded.checked group enabled moment
  obtain ⟨outcome, after⟩ := features_mirror allLayers (.setGroupEnabled group enabled) moment _ _ mirrors
  have told := submitted_features moment layered (.setGroupEnabled group enabled)
  constructor
  · intro none
    have none : layered.backend.store.toList.filter (fun feature => feature.inGroup group) = [] := none
    rw [bare, none] at outcome
    have answered : ¬FeatureCall.FromCopy (.setGroupEnabled group enabled) := fun copy => copy
    exact ⟨outcome, features_atomic allLayers answered moment layered _ outcome⟩
  · intro some
    have switched : (Repository.features Store.handle (.setGroupEnabled group enabled)).perform moment
        layered.backend.store = (.ok (), layered.backend.store.switchAll enabled (fun _ => moment.wall) members) := by
      rw [bare]
      cases listed : layered.backend.store.toList.filter fun feature => feature.inGroup group with
      | nil => exact absurd listed some
      | cons member rest => exact congrArg (fun members => (_, layered.backend.store.switchAll _ _ members)) listed.symm
    have switchable := Store.switchable_members keyed founded.checked group
    obtain ⟨succeed, mirrored, submitted⟩ := mirrors.switchEach switchable clock enabled
    rw [switched] at outcome after
    rw [outcome] at told
    -- Both stores are the one before with the members switched, at one time or each at its own.
    have storeAfter : bulk.2.backend.store = _ := after.store
    have storeEach : each.backend.store = _ := mirrored.store
    rw [storeAfter, storeEach]
    exact ⟨outcome, succeed,
      alike_of_mirrors after mirrored (Store.undated_switchAll rfl) (told.trans submitted.symm),
      groupSwitched_switchAll keyed founded.checked group enabled _,
      groupSwitched_switchAll keyed founded.checked group enabled _⟩

/-- A lamp and a bell are lights, a mirror is not; the cache holds all three. The lights are switched on as the bell and
the lamp are, one second apart; nothing belongs to the dark. -/
theorem lights_are_switched_as_lamps :
    let light := fun id => { Feature.new id .epoch with group := some "light" }
    let mirror := Feature.new "mirror" .epoch
    let created := fun feature (layered : Layered Feature FeatureNotice) =>
      ((FeatureOperation.ask (.store (.create feature))).handle.perform ⟨1, .epoch⟩ layered).2
    let layered := created mirror (created (light "bell") (created (light "lamp") (Layered.new .empty 10 4 (fun _ => 0))))
    let second : Moment := ⟨2, ⟨1, 0, by decide⟩⟩
    let third : Moment := ⟨3, ⟨2, 0, by decide⟩⟩
    let bulk := (features allLayers (.setGroupEnabled "light" true)).perform second layered
    let dark := (features allLayers (.setGroupEnabled "dark" true)).perform second layered
    let each := Handler.run (features allLayers) layered
      [(second, .setEnabled "bell" true), (third, .setEnabled "lamp" true)]
    Founded layered ∧ layered.backend.online = true ∧ layered.membersOf "light" = [light "bell", light "lamp"] ∧
      bulk.1 = .ok () ∧ AlikeButUpdates bulk.2 each ∧ bulk.2.backend.store.find? "mirror" = some mirror ∧
      (∃ kept, each.backend.store.find? "lamp" = some kept ∧ kept.enabled = true ∧ kept.group = some "light") ∧
      dark.1 = .error (.notFound .group "dark") := by
  intro light mirror created layered second third bulk dark each
  have founded : Founded layered :=
    (((Founded.new .new 10 4 _).operation ⟨1, .epoch⟩ _).operation ⟨1, .epoch⟩ _).operation ⟨1, .epoch⟩ _
  have online : layered.backend.online = true := by decide +kernel
  have lights : layered.membersOf "light" = [light "bell", light "lamp"] := by decide +kernel
  have mirrorKept : layered.backend.store.find? "mirror" = some mirror := by decide +kernel
  have lampKept : layered.backend.store.find? "lamp" = some (light "lamp") := by decide +kernel
  let clock : Feature → Moment := fun member => if member.id = "bell" then second else third
  obtain ⟨_, switches⟩ := group_is_switched_as_its_members founded online "light" true second clock
  obtain ⟨missing, _⟩ := group_is_switched_as_its_members founded online "dark" true second clock
  rw [lights] at switches
  obtain ⟨succeeds, _, alike, switched, switchedEach⟩ := switches nofun
  obtain ⟨lamp, found, enabled, same⟩ := switchedEach.members "lamp" _ lampKept rfl
  refine ⟨founded, online, lights, succeeds, alike, ?_, ⟨lamp, found, enabled, congrArg Feature.group same⟩,
    (missing (by decide +kernel)).1⟩
  refine (switched.others "mirror" fun feature stored => ?_).trans mirrorKept
  rw [mirrorKept] at stored
  cases stored
  rfl

end Layered

end Switchboard

/-
**Reads through layers.**

* `Layered.copy?`, `Layered.search` — the copy of a feature that is alive, and what a search answers: the copy, else
  what the store keeps if it is online (`Layered.outcome_find`).
* `Layered.perform_read` — a single read is a search whose outcome has to be something.
* `Layered.CoherentAt.reads` — a coherent copy of what is stored answers as the store does.
* `Layered.LeftAlone` — what is stored and what was submitted is as before; so it is after every read
  (`Layered.leftAlone_of_read`).
-/

import Switchboard.Proofs.Caching.Retention
import Switchboard.Proofs.Evaluation.Looks
import Switchboard.Proofs.Layered.Coherent

namespace Switchboard

open Act

namespace Layered

variable {layers : Layers} {layered : Layered Feature FeatureNotice} {moment : Moment} {id : String}

/-! ### Single reads -/

/-- The copy of a feature that is alive in the cache, if a cache is used. -/
def copy? (layers : Layers) (layered : Layered Feature FeatureNotice) (clock : Nat) (id : String) : Option Feature :=
  if layers.cached then (layered.cache.live clock)[id]?.map CacheEntry.value else none

/-- What a search for a feature answers: a copy, or what the store keeps if it is online. -/
def search (layers : Layers) (layered : Layered Feature FeatureNotice) (clock : Nat) (id : String) :
    Except Fault (Option Feature) :=
  match copy? layers layered clock id with
  | some feature => .ok (some feature)
  | none => if layered.backend.online then .ok (layered.backend.store.find? id) else .error Backend.offline

/-- **A search** answers with a copy that is alive, else with what the store keeps if it is online. -/
theorem outcome_find (layers : Layers) (id : String) (moment : Moment) (layered : Layered Feature FeatureNotice) :
    ((features layers (.store (.find id))).perform moment layered).1 = search layers layered moment.clock id := by
  have bare : ((Backend.handle (.find id)).perform moment layered.backend).1 =
      if layered.backend.online then .ok (layered.backend.store.find? id) else .error Backend.offline := by
    cases online : layered.backend.online with
    | true => rw [Backend.perform_handle_online online]; rfl
    | false => rw [Backend.perform_handle_offline online]; rfl
  have cached : ((Caching.find Backend.handle id).perform moment layered.below).1 =
      search ⟨true, false⟩ layered moment.clock id := by
    unfold search copy?
    rw [if_pos rfl]
    cases held : (layered.cache.live moment.clock)[id]? with
    | some entry => rw [Caching.find_of_live held]; rfl
    | none =>
      rw [Caching.find_of_dead held]
      exact apply_ite Prod.fst _ _ _
  rcases layers with ⟨_ | _, _ | _⟩
  · exact bare
  · exact bare
  · exact cached
  · exact cached

/-- **A single read** is a search whose outcome has to be something. -/
theorem perform_read (layers : Layers) (id : String) (moment : Moment) (layered : Layered Feature FeatureNotice) :
    (features layers (.store (.read id))).perform moment layered =
      (((features layers (.store (.find id))).perform moment layered).1 >>= found id,
        ((features layers (.store (.find id))).perform moment layered).2) := by
  have required : ∀ {σ : Type} (action : Act σ (Option Feature)) (state : σ),
      (action >>= fun answer => Act.lift (found id answer)).perform moment state =
        ((action.perform moment state).1 >>= found id, (action.perform moment state).2) := by
    intro σ action state
    rw [perform_bind]
    cases (action.perform moment state).1 with
    | ok answer => exact perform_lift _
    | error fault => rfl
  have bare : (Backend.handle (.read id)).perform moment layered.backend =
      (((Backend.handle (.find id)).perform moment layered.backend).1 >>= found id,
        ((Backend.handle (.find id)).perform moment layered.backend).2) := by
    cases online : layered.backend.online with
    | true =>
      have fetched : (Store.handle (.read id)).perform moment layered.backend.store = _ := Repository.perform_fetch id
      rw [Backend.perform_handle_online online, Backend.perform_handle_online online, fetched]
      rfl
    | false =>
      rw [Backend.perform_handle_offline online, Backend.perform_handle_offline online]
      rfl
  let inLayers {α : Type} (made : Except Fault α × Backend Feature) : Except Fault α × Layered Feature FeatureNotice :=
    (made.1, { layered with below := { layered.below with below := made.2 } })
  let aboveCache {α : Type} (made : Except Fault α × Cached Feature (Backend Feature)) :
      Except Fault α × Layered Feature FeatureNotice := (made.1, { layered with below := made.2 })
  rcases layers with ⟨_ | _, _ | _⟩
  · exact congrArg inLayers bare
  · exact required _ layered
  · exact congrArg aboveCache (required (Caching.find Backend.handle id) layered.below)
  · exact required _ layered

theorem outcome_read (layers : Layers) (id : String) (moment : Moment) (layered : Layered Feature FeatureNotice) :
    ((features layers (.store (.read id))).perform moment layered).1 =
      search layers layered moment.clock id >>= found id := by
  rw [perform_read, outcome_find]

/-- **Under an identifier with a coherent copy, the stored feature is what is read** while the store is online. -/
theorem CoherentAt.reads (coherent : CoherentAt layers id layered) (online : layered.backend.online = true)
    {feature : Feature} (stored : layered.backend.store.find? id = some feature) (moment : Moment) :
    ((features layers (.store (.read id))).perform moment layered).1 = .ok feature := by
  have searched : search layers layered moment.clock id = .ok (some feature) := by
    unfold search
    cases copied : copy? layers layered moment.clock id with
    | none =>
      dsimp only
      rw [if_pos online, stored]
    | some copy =>
      unfold copy? at copied
      split at copied
      next used =>
        obtain ⟨entry, alive, rfl⟩ := Option.map_eq_some_iff.mp copied
        have same := stored.symm.trans (coherent.copies used entry (Cache.held_of_live alive))
        rw [Option.some.inj same]
      · cases copied
  rw [outcome_read, searched]
  rfl

/-! ### What reads leave -/

/-- **A read submits nothing**, whichever layers there are. -/
theorem quietly_read_through (layers : Layers) {call : FeatureCall} (read : call.IsRead) :
    Leads Quietly (features layers call) := by
  rcases layers with ⟨used, _ | _⟩
  · exact fun moment layered => rfl
  · cases call with
    | store call =>
      cases call with
      | read id =>
        rw [read_eq]
        exact Leads.bind Quietly.trans (fun _ _ => rfl) fun _ => .lift Quietly.refl _
      | has | find | fetch | all | count => exact fun _ _ => rfl
      | _ => cases read
    | hasGroup | readGroup | groups => exact fun _ _ => rfl
    | _ => cases read

/-- What is stored and what was submitted is as before, and so is whether the store is online. -/
structure LeftAlone (before after : Layered Feature FeatureNotice) : Prop where
  store : after.backend.store = before.backend.store
  online : after.backend.online = before.backend.online
  submitted : after.submitted = before.submitted

theorem LeftAlone.refl (layered : Layered Feature FeatureNotice) : LeftAlone layered layered := ⟨rfl, rfl, rfl⟩

theorem LeftAlone.trans (first second third : Layered Feature FeatureNotice) (early : LeftAlone first second)
    (late : LeftAlone second third) : LeftAlone first third :=
  ⟨late.store.trans early.store, late.online.trans early.online, late.submitted.trans early.submitted⟩

/-- A read of a store that can go offline leaves it alone. -/
theorem alike_of_read {call : FeatureCall} (read : call.IsRead) (moment : Moment) (backend : Backend Feature) :
    Backend.Alike ((Repository.features Backend.handle call).perform moment backend).2 backend := by
  refine ⟨?_, Backend.features_answers.online_perform call moment backend⟩
  rcases Backend.features_answers.cases call moment backend with ⟨_, _, serves⟩ | ⟨_, _, withholds⟩
  · exact serves.2.trans (congrArg Prod.snd (Repository.looks_read read moment moment backend.store))
  · exact withholds.2

/-- **Every read leaves a repository alone**, whichever layers there are. -/
theorem leftAlone_of_read (layers : Layers) {call : FeatureCall} (read : call.IsRead) :
    Leads LeftAlone (features layers call) := by
  intro moment layered
  have quiet := quietly_read_through layers read moment layered
  have searched (id : String) : Backend.Alike
      ((features layers (.store (.find id))).perform moment layered).2.backend layered.backend := by
    have bare : FeatureCall.IsRead (.store (.find id)) := rfl
    rcases layers with ⟨_ | _, _ | _⟩
    · exact alike_of_read bare moment layered.backend
    · exact alike_of_read bare moment layered.backend
    · exact Caching.below_find moment layered.below id
    · exact Caching.below_find moment layered.below id
  by_cases copy : call.FromCopy
  · cases call with
    | store call =>
      cases call with
      | find id => exact ⟨(searched id).1, (searched id).2, quiet⟩
      | read id =>
        have same := congrArg (fun after => after.2.backend) (perform_read layers id moment layered)
        exact ⟨(congrArg Backend.store same).trans (searched id).1, (congrArg Backend.online same).trans (searched id).2,
          quiet⟩
      | _ => exact copy.elim
    | _ => exact copy.elim
  · obtain ⟨_, store, online⟩ := features_over layers copy moment layered layered.backend ⟨rfl, rfl⟩
    have kept := alike_of_read read moment layered.backend
    exact ⟨store.trans kept.1, online.trans kept.2, quiet⟩

/-- A single read leaves a repository alone. -/
theorem leftAlone_of_single_read (layers : Layers) (id : String) (moment : Moment)
    (layered : Layered Feature FeatureNotice) :
    LeftAlone layered ((features layers (.store (.read id))).perform moment layered).2 := by
  have read : FeatureCall.IsRead (.store (.read id)) := rfl
  exact leftAlone_of_read layers read moment layered

/-- A repository is left alone, and so are the copies in its cache that are alive. -/
structure Undisturbed (moment : Moment) (before after : Layered Feature FeatureNotice) : Prop
    extends LeftAlone before after where
  live : after.cache.live moment.clock = before.cache.live moment.clock

/-- A single read that finds nothing leaves no copy, and every other copy that is alive. -/
theorem cache_of_vain_read (uncopied : copy? layers layered moment.clock id = none)
    (vain : layered.backend.online = true → layered.backend.store.find? id = none) :
    let after := ((features layers (.store (.read id))).perform moment layered).2
    (layers.cached = true → after.cache.entries[id]? = none) ∧
      after.cache.live moment.clock = layered.cache.live moment.clock := by
  intro after
  have searched : after.cache = ((features layers (.store (.find id))).perform moment layered).2.cache :=
    congrArg (fun after => after.2.cache) (perform_read layers id moment layered)
  rw [searched]
  rcases layers with ⟨_ | _, notifying⟩
  · cases notifying <;> exact ⟨nofun, rfl⟩
  · have dead : (layered.below.cache.live moment.clock)[id]? = none := Option.map_eq_none_iff.mp uncopied
    have found : ((Caching.find Backend.handle id).perform moment layered.below).2.cache =
        (layered.cache.get moment.clock id).2 := by
      rw [Caching.find_of_dead dead]
      split
      next online =>
        show Caching.keeping _ _ _ (layered.backend.store.find? id) = _
        rw [vain online]
        rfl
      · rfl
    have same : ((features ⟨true, notifying⟩ (.store (.find id))).perform moment layered).2.cache =
        (layered.cache.get moment.clock id).2 := by
      cases notifying <;> exact found
    rw [same]
    exact ⟨fun _ => (Cache.get_of_dead dead).2, Cache.live_get layered.cache moment.clock id⟩

theorem undisturbed_of_vain_read (uncopied : copy? layers layered moment.clock id = none)
    (vain : layered.backend.online = true → layered.backend.store.find? id = none) :
    Undisturbed moment layered ((features layers (.store (.read id))).perform moment layered).2 :=
  ⟨leftAlone_of_single_read layers id moment layered, (cache_of_vain_read uncopied vain).2⟩

end Layered

end Switchboard

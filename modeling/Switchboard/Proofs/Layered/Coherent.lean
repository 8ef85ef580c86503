/-
**Coherent repositories in layers.**

A repository that is only changed through its layers keeps its cache coherent, while it is online and while
it is offline; online, it cannot be told from the store by itself.

* `Layered.Coherent` — the store is keyed, and every entry of the cache, if one is used, holds what the store
  holds.
* `Layered.CoherentAt` — the same for what the cache has under one identifier.
* `Layered.coherentAt_features`, `Layered.coherent_features` — every call keeps a repository coherent.
* `Layered.Mirrors` — a coherent repository that is online, and a store by itself that keeps the same.
* `Layered.features_mirror` — every call agrees on them.
-/

import Switchboard.Proofs.Caching.Coherence
import Switchboard.Proofs.Layered.Writes
import Switchboard.Proofs.Repository.Leads

namespace Switchboard

open Act

/-- What an action keeps, it keeps of two states that are one. -/
theorem Act.Keeps.agree {σ α : Type} {kept : σ → Prop} {action : Act σ α} (keeps : Keeps kept action) :
    Agree (fun state state' => state' = state ∧ kept state) action action := by
  rintro moment state _ ⟨rfl, holds⟩
  exact ⟨rfl, rfl, keeps moment _ holds⟩

/-- **What the calls below keep, the calls with notices keep.** -/
theorem Notifying.features_keeps {σ : Type} {kept : σ → Prop} {inner : FeatureHandler σ}
    (keeps : ∀ call, Keeps kept (inner call)) (call : FeatureCall) :
    Keeps (fun state => kept state.below) (features inner call) := by
  intro moment state holds
  have same : Handler.AgreeOn (fun _ => True) (fun state state' => state' = state ∧ kept state) inner inner :=
    fun call _ => (keeps call).agree
  have agree : Agree (Notified.Alike [] [] _) (features inner call) (features inner call) :=
    features_agree same (fun _ _ => trivial) (fun _ _ _ => trivial) trivial
  exact (agree moment state state ⟨⟨state.submitted, rfl, rfl⟩, rfl, holds⟩).2.2.2

/-! ### Behind a cache -/

/-- The store is keyed, and every entry of the cache, if it is used, holds what the store holds. -/
structure Cached.Coherent {E : Type} [Entity E] (used : Bool) (cached : Cached E (Backend E)) : Prop where
  keyed : cached.below.store.Keyed
  copies : used = true → ∀ (id : String) entry, cached.cache.entries[id]? = some entry →
    cached.below.store.find? id = some entry.value

/-- The store is keyed, and what the cache, if it is used, has under an identifier holds what the store holds. -/
structure Cached.CoherentAt {E : Type} [Entity E] (used : Bool) (id : String) (cached : Cached E (Backend E)) :
    Prop where
  keyed : cached.below.store.Keyed
  copies : used = true → ∀ entry, cached.cache.entries[id]? = some entry →
    cached.below.store.find? id = some entry.value

theorem Cached.coherent_iff {E : Type} [Entity E] {used : Bool} {cached : Cached E (Backend E)} :
    Cached.Coherent used cached ↔ ∀ id, Cached.CoherentAt used id cached :=
  ⟨fun coherent id => ⟨coherent.keyed, fun cached => coherent.copies cached id⟩,
    fun coherent => ⟨(coherent "").keyed, fun cached id => (coherent id).copies cached⟩⟩

namespace Layered

/-- What is below the notices is coherent. -/
def Coherent {E N : Type} [Entity E] (layers : Layers) (layered : Layered E N) : Prop :=
  Cached.Coherent layers.cached layered.below

/-- What is below the notices is coherent under an identifier. -/
def CoherentAt {E N : Type} [Entity E] (layers : Layers) (id : String) (layered : Layered E N) : Prop :=
  Cached.CoherentAt layers.cached id layered.below

/-- The handlers above a store keep what they are over coherent under every identifier, whether there is a cache or
not. -/
theorem coherentAt_cachedFeatures (used : Bool) (id : String) (call : FeatureCall) :
    Keeps (Cached.CoherentAt used id)
      ((if used then Caching.features (Repository.features Backend.handle)
        else Bypassing.handle (Repository.features Backend.handle)) call) := by
  intro moment cached coherent
  cases used with
  | true =>
    have above := Caching.orderly_above Backend.features_orderly Caching.transparent_features
    refine ⟨above.keyed call moment cached coherent.keyed, fun _ entry held => ?_⟩
    exact Caching.coherent_perform (Caching.traced_features call) above coherent.keyed
      (coherent.copies rfl) held
  | false => exact ⟨Backend.features_orderly.keyed call moment cached.below coherent.keyed, nofun⟩

theorem coherent_cachedFeatures (used : Bool) (call : FeatureCall) :
    Keeps (Cached.Coherent used)
      ((if used then Caching.features (Repository.features Backend.handle)
        else Bypassing.handle (Repository.features Backend.handle)) call) :=
  fun moment cached coherent => Cached.coherent_iff.mpr fun id =>
    coherentAt_cachedFeatures used id call moment cached (Cached.coherent_iff.mp coherent id)

/-- **Every call keeps a repository coherent under every identifier**, whether it succeeds or fails, online and
offline. -/
theorem coherentAt_features (layers : Layers) (id : String) (call : FeatureCall) :
    Keeps (CoherentAt layers id) (features layers call) := by
  have inner := coherentAt_cachedFeatures layers.cached id
  unfold features
  split
  · exact Notifying.features_keeps inner call
  · exact fun moment layered coherent => inner call moment layered.below coherent

/-- **Every call keeps a repository coherent.** -/
theorem coherent_features (layers : Layers) (call : FeatureCall) :
    Keeps (Coherent layers) (features layers call) :=
  fun moment layered coherent => Cached.coherent_iff.mpr fun id =>
    coherentAt_features layers id call moment layered (Cached.coherent_iff.mp coherent id)

end Layered

/-! ### A store that keeps the same -/

/-- What is behind a cache is coherent and online and keeps what a store by itself keeps. -/
structure Cached.Mirrors {E : Type} [Entity E] (used : Bool) (cached : Cached E (Backend E))
    (store : Store E) : Prop where
  store : cached.below.store = store
  online : cached.below.online = true
  coherent : Cached.Coherent used cached

namespace Layered

/-- What is below the notices is coherent and online and keeps what a store by itself keeps. -/
def Mirrors {E N : Type} [Entity E] (layers : Layers) (layered : Layered E N) (store : Store E) : Prop :=
  Cached.Mirrors layers.cached layered.below store

/-- The handlers above a store answer as the store does, whether there is a cache or not. -/
theorem cachedFeatures_mirror (used : Bool) (call : FeatureCall) :
    Agree (Cached.Mirrors used)
      ((if used then Caching.features (Repository.features Backend.handle)
        else Bypassing.handle (Repository.features Backend.handle)) call)
      (Repository.features Store.handle call) := by
  rintro moment cached _ ⟨rfl, online, coherent⟩
  have kept := coherent_cachedFeatures used call moment cached coherent
  obtain ⟨served, onlineAfter, storeAfter⟩ :=
    Backend.features_answers.online call moment cached.below _ ⟨online, rfl⟩
  cases used with
  | true =>
    have twin : Cached.Twin cached cached := ⟨rfl, online, online, coherent.keyed, coherent.copies rfl⟩
    obtain ⟨outcome, after⟩ := Caching.features_twin call moment cached cached twin
    exact ⟨outcome.trans served, after.store.trans storeAfter, after.online, kept⟩
  | false => exact ⟨served, storeAfter, onlineAfter, kept⟩

/-- Above notices, a read is a search whose outcome has to be something. -/
theorem read_eq (used : Bool) (id : String) :
    features ⟨used, true⟩ (.store (.read id)) =
      features ⟨used, true⟩ (.store (.find id)) >>= fun found? => Act.lift (found id found?) := rfl

/-- Single reads agree. -/
theorem copies_mirror (layers : Layers) {call : FeatureCall} (copy : call.FromCopy) :
    Agree (Mirrors layers) (features layers call) (Repository.features Store.handle call) := by
  have inner := cachedFeatures_mirror layers.cached
  intro moment layered store mirrors
  rcases layers with ⟨used, _ | _⟩
  · exact inner call moment layered.below store mirrors
  · cases call with
    | store call =>
      cases call with
      | find id => exact inner _ moment layered.below store mirrors
      | read id =>
        obtain ⟨outcome, after⟩ := inner (.store (.find id)) moment layered.below store mirrors
        have finding : ((features ⟨used, true⟩ (.store (.find id))).perform moment layered).1 =
          .ok (store.find? id) := outcome
        have reading : (Repository.features Store.handle (.store (.read id))).perform moment store =
          (found id (store.find? id), store) := Repository.perform_fetch id
        rw [read_eq, perform_bind_ok finding, perform_lift, reading]
        exact ⟨rfl, after⟩
      | _ => exact copy.elim
    | _ => exact copy.elim

/-- **Every call agrees on a coherent repository and on the store by itself.** -/
theorem features_mirror (layers : Layers) (call : FeatureCall) :
    Agree (Mirrors layers) (features layers call) (Repository.features Store.handle call) := by
  by_cases copy : call.FromCopy
  · exact copies_mirror layers copy
  · rintro moment layered _ ⟨rfl, online, coherent⟩
    have kept := coherent_features layers call moment layered coherent
    obtain ⟨outcome, store, state⟩ := features_over layers copy moment layered layered.backend ⟨rfl, rfl⟩
    obtain ⟨served, onlineAfter, storeAfter⟩ :=
      Backend.features_answers.online call moment layered.backend _ ⟨online, rfl⟩
    exact ⟨outcome.trans served, store.trans storeAfter, state.trans onlineAfter, kept⟩

end Layered

end Switchboard

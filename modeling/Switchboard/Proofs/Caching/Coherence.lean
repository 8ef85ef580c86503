/-
**Coherent caches.**

A cache is coherent with the store behind it if every entry, whether it is alive or not, holds what the
store holds. A coherent cache cannot be told from no cache by the calls of a repository.

* `Cached.Twin` — a repository behind a coherent cache, and one that does not use its cache, over online
  stores that keep the same.
* `Caching.features_twin`, `Caching.properties_twin` — twins answer every call alike and stay twins.
* `Cached.Twin.reload`, `Cached.Twin.within` — reloads, sweeps and clearances on either side keep twins.
-/

import Switchboard.Proofs.Caching.Reload

namespace Switchboard

open Act

variable {E : Type}

/-- A repository behind a cache that is coherent, and one that does not use its cache. Both stores are
online and keep the same. -/
structure Cached.Twin [Entity E] (decorated plain : Cached E (Backend E)) : Prop where
  store : decorated.below.store = plain.below.store
  online : decorated.below.online = true
  plainOnline : plain.below.online = true
  keyed : decorated.below.store.Keyed
  coherent : ∀ (id : String) entry, decorated.cache.entries[id]? = some entry →
    decorated.below.store.find? id = some entry.value

namespace Caching

variable [Entity E]

/-! ### Calls -/

section Calls

variable {C : Type} {Reply : C → Type} {alters : C → String → Prop}
  {decorated : Handler Reply (Cached E (Backend E))} {plain : Handler Reply (Backend E)}
  {kept : Handler Reply (Store E)} {moment : Moment} {cached : Cached E (Backend E)}

/-- A call behind a cache that is coherent under an identifier leaves it so. -/
theorem coherent_perform {call : C} {id : String} (traced : Traced (alters call) (decorated call))
    (orderly : Handler.Orderly (fun cached => cached.below.store) alters decorated)
    (keyed : cached.below.store.Keyed)
    (coherent : ∀ entry, cached.cache.entries[id]? = some entry → cached.below.store.find? id = some entry.value)
    {entry : CacheEntry E}
    (held : ((decorated call).perform moment cached).2.cache.entries[id]? = some entry) :
    ((decorated call).perform moment cached).2.below.store.find? id = some entry.value := by
  rcases traced.entry moment cached id entry held with ⟨old, kept⟩ | ⟨_, _, stored⟩
  · rw [← coherent entry old]
    -- An old entry may be of an identifier that the call alters only if the call failed.
    cases outcome : ((decorated call).perform moment cached).1 with
    | ok value => exact orderly.frame call moment cached id keyed (kept ⟨value, outcome⟩)
    | error fault =>
      have same : ((decorated call).perform moment cached).2.below.store = cached.below.store :=
        orderly.error call moment cached fault outcome
      rw [same]
  · exact stored

/-- Calls agree on twins if they have the same outcome there and leave the same in the store. -/
theorem twin_of_same (answers : Backend.Answers plain kept)
    (transparent : ∀ call, Transparent (decorated call) (plain call))
    (traced : ∀ call, Traced (alters call) (decorated call))
    (orderly : Handler.Orderly Backend.store alters plain) {call : C}
    (same : ∀ moment cached below, Cached.Twin cached below →
      ((decorated call).perform moment cached).1 = ((plain call).perform moment below.below).1 ∧
        ((decorated call).perform moment cached).2.below.store =
          ((plain call).perform moment below.below).2.store) :
    Agree Cached.Twin (decorated call) (Bypassing.handle plain call) := by
  intro moment cached below twin
  have above := orderly_above orderly transparent
  obtain ⟨outcome, store⟩ := same moment cached below twin
  refine ⟨outcome, store, ?_, ?_, above.keyed call moment cached twin.keyed, ?_⟩
  · rw [online_above answers transparent, twin.online]
  · exact (answers.online_perform call moment below.below).trans twin.plainOnline
  · exact fun id entry held => coherent_perform (traced call) above twin.keyed (twin.coherent id) held

/-- A call that is answered below has the same outcome on twins. -/
theorem same_of_passed {call : C} {settle : Nat → Cache E → Cache E}
    (passed : Passed settle (decorated call) (plain call))
    (alike : Agree Backend.Alike (plain call) (plain call)) (moment : Moment)
    (cached below : Cached E (Backend E)) (twin : Cached.Twin cached below) :
    ((decorated call).perform moment cached).1 = ((plain call).perform moment below.below).1 ∧
      ((decorated call).perform moment cached).2.below.store =
        ((plain call).perform moment below.below).2.store := by
  rw [passed moment cached]
  obtain ⟨outcome, store, _⟩ := alike moment cached.below below.below
    ⟨twin.store, twin.online.trans twin.plainOnline.symm⟩
  exact ⟨outcome, store⟩

end Calls

/-- **A single read of a coherent cache** answers what the store holds. -/
theorem find_of_twin {moment : Moment} {cached below : Cached E (Backend E)} {id : String}
    (twin : Cached.Twin cached below) :
    ((find Backend.handle id).perform moment cached).1 = .ok (below.below.store.find? id) := by
  rw [← twin.store]
  rcases find_cases moment cached id with ⟨entry, held, _, hit⟩ | ⟨_, loaded⟩ | ⟨offline, _⟩
  · rw [hit, twin.coherent id entry held]
  · rw [loaded]
  · rw [twin.online] at offline
    cases offline

theorem same_store (call : StoreCall E) (moment : Moment) (cached below : Cached E (Backend E))
    (twin : Cached.Twin cached below) :
    ((store Backend.handle call).perform moment cached).1 =
        ((Backend.handle call).perform moment below.below).1 ∧
      ((store Backend.handle call).perform moment cached).2.below.store =
        ((Backend.handle call).perform moment below.below).2.store := by
  by_cases copy : call.FromCopy
  · cases call with
    | find id =>
      rw [Backend.perform_handle_online twin.plainOnline]
      exact ⟨find_of_twin twin, (below_find moment cached id).1.trans twin.store⟩
    | read id =>
      have asked : (Store.handle (.read id)).perform moment below.below.store =
        (found id (below.below.store.find? id), below.below.store) := Repository.perform_fetch id
      rw [perform_read, Backend.perform_handle_online twin.plainOnline, asked, find_of_twin twin]
      exact ⟨rfl, (below_find moment cached id).1.trans twin.store⟩
    | _ => exact copy.elim
  · exact same_of_passed (passed_store _ copy) (Backend.handle_alike call) moment cached below twin

/-- **Twins answer every call of features alike and stay twins.** -/
theorem features_twin (call : FeatureCall) :
    Agree Cached.Twin (features (Repository.features Backend.handle) call)
      (Bypassing.handle (Repository.features Backend.handle) call) := by
  refine twin_of_same Backend.features_answers transparent_features traced_features
    Backend.features_orderly fun moment cached below twin => ?_
  cases call with
  | store call => exact same_store call moment cached below twin
  | _ =>
    refine same_of_passed (passed_features _ ?_) (Repository.features_agree Backend.handle_alike _)
      moment cached below twin
    exact fun copy => copy

/-- **Twins answer every call of properties alike and stay twins.** -/
theorem properties_twin (call : PropertyCall) :
    Agree Cached.Twin (properties (Repository.properties Backend.handle) call)
      (Bypassing.handle (Repository.properties Backend.handle) call) := by
  refine twin_of_same Backend.properties_answers transparent_properties traced_properties
    Backend.properties_orderly fun moment cached below twin => ?_
  cases call with
  | store call => exact same_store call moment cached below twin
  | setValue id raw =>
    refine same_of_passed (passed_properties _ ?_)
      (Repository.properties_agree Backend.handle_alike _) moment cached below twin
    exact fun copy => copy

end Caching

/-! ### What happens in the background -/

namespace Cached.Twin

variable [Entity E] {decorated plain : Cached E (Backend E)}

/-- What only drops entries keeps twins. -/
theorem within (twin : Twin decorated plain) {cache : Cache E} (drops : cache.Within decorated.cache) :
    Twin { decorated with cache } plain where
  store := twin.store
  online := twin.online
  plainOnline := twin.plainOnline
  keyed := twin.keyed
  coherent id entry held := twin.coherent id entry (drops id entry held)

/-- A cache that is not used does not matter. -/
theorem unused (twin : Twin decorated plain) (cache : Cache E) :
    Twin decorated { plain with cache } where
  store := twin.store
  online := twin.online
  plainOnline := twin.plainOnline
  keyed := twin.keyed
  coherent := twin.coherent

/-- A reload behind a cache keeps twins. -/
theorem reload (twin : Twin decorated plain) (moment : Moment) :
    Twin ((Caching.reload Backend.handle).perform moment decorated).2 plain where
  store := by
    rw [Caching.below_reload, Backend.store_counted]
    exact twin.store
  online := by
    rw [Caching.below_reload, Backend.online_counted]
    exact twin.online
  plainOnline := twin.plainOnline
  keyed := by
    rw [Caching.below_reload, Backend.store_counted]
    exact twin.keyed
  coherent id entry held := by
    rw [Caching.below_reload, Backend.store_counted]
    rcases Caching.entry_of_reload twin.keyed held with ⟨old, _⟩ | ⟨_, _, stored⟩
    · exact twin.coherent id entry old
    · exact stored

/-- A reload of a cache that is not used keeps twins. -/
theorem reload_unused (twin : Twin decorated plain) (moment : Moment) :
    Twin decorated ((Caching.reload Backend.handle).perform moment plain).2 where
  store := by
    rw [Caching.below_reload, Backend.store_counted]
    exact twin.store
  online := twin.online
  plainOnline := by
    rw [Caching.below_reload, Backend.online_counted]
    exact twin.plainOnline
  keyed := twin.keyed
  coherent := twin.coherent

end Cached.Twin

end Switchboard

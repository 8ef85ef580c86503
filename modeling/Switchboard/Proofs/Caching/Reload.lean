/-
**Reloads of a cache.**

* `Caching.reload_cases` — a reload puts everything the store keeps in place of what the cache held, or is
  refused and leaves the cache as it was.
* `Caching.entry_of_putAll` — after values are put one after the other, every entry is one of theirs or an
  old one.
* `Caching.entry_of_reload` — after a reload that succeeds, every entry was put by it and holds what the
  store holds.
-/

import Switchboard.Proofs.Caching.Calls

namespace Switchboard

open Act

namespace Caching

open Cached

variable {E : Type} [Entity E] {moment : Moment} {cached : Cached E (Backend E)}

/-- A cache with entities put in one after the other. -/
def putAll (clock : Nat) (entities : List E) (cache : Cache E) : Cache E :=
  entities.foldl (fun cache entity => cache.put clock (Entity.id entity) entity none) cache

theorem lifetime_putAll (clock : Nat) (entities : List E) (cache : Cache E) :
    (putAll clock entities cache).lifetime = cache.lifetime := by
  induction entities generalizing cache with
  | nil => rfl
  | cons entity rest ih => exact (ih _).trans (Cache.lifetime_put _ _ _ _ _)

theorem entry_of_putAll {clock : Nat} {entities : List E} {cache : Cache E} {id : String}
    {entry : CacheEntry E} (held : (putAll clock entities cache).entries[id]? = some entry) :
    (∃ entity ∈ entities, Entity.id entity = id ∧ entry = ⟨entity, clock, cache.lifetime⟩) ∨
      cache.entries[id]? = some entry := by
  induction entities generalizing cache with
  | nil => exact .inr held
  | cons first rest ih =>
    rcases ih held with ⟨entity, listed, same, rfl⟩ | before
    · rw [Cache.lifetime_put]
      exact .inl ⟨entity, List.mem_cons_of_mem _ listed, same, rfl⟩
    · rcases Cache.entry_of_put before with ⟨same, rfl⟩ | ⟨_, old⟩
      · exact .inl ⟨first, List.mem_cons_self, same, rfl⟩
      · exact .inr old

/-- **A reload** puts everything the store keeps in place of what the cache held, or is refused. -/
theorem reload_cases (moment : Moment) (cached : Cached E (Backend E)) :
    (cached.below.online = true ∧
        (reload Backend.handle).perform moment cached =
          (.ok cached.below.store.toList.length,
            { cache := putAll moment.clock cached.below.store.toList cached.cache.clear
              below := cached.below.counted .all })) ∨
      (cached.below.online = false ∧
        (reload Backend.handle).perform moment cached =
          (.error Backend.offline, { cached with below := cached.below.counted .all })) := by
  unfold reload
  rw [perform_bind, perform_under]
  cases online : cached.below.online with
  | false =>
    rw [Backend.perform_handle_offline online]
    exact .inr ⟨rfl, rfl⟩
  | true =>
    rw [Backend.perform_handle_online online]
    exact .inl ⟨rfl, rfl⟩

theorem below_reload (moment : Moment) (cached : Cached E (Backend E)) :
    ((reload Backend.handle).perform moment cached).2.below = cached.below.counted .all := by
  rcases reload_cases moment cached with ⟨_, loaded⟩ | ⟨_, refused⟩
  · rw [loaded]
  · rw [refused]

theorem lifetime_reload (moment : Moment) (cached : Cached E (Backend E)) :
    ((reload Backend.handle).perform moment cached).2.cache.lifetime = cached.cache.lifetime := by
  rcases reload_cases moment cached with ⟨_, loaded⟩ | ⟨_, refused⟩
  · rw [loaded]
    exact lifetime_putAll _ _ _
  · rw [refused]

/-- **Every entry after a reload** is an old one, if the reload was refused, or was put by it and holds
what the store holds. -/
theorem entry_of_reload (keyed : cached.below.store.Keyed) {id : String} {entry : CacheEntry E}
    (held : ((reload Backend.handle).perform moment cached).2.cache.entries[id]? = some entry) :
    (cached.cache.entries[id]? = some entry ∧
        ¬∃ loaded, ((reload Backend.handle).perform moment cached).1 = .ok loaded) ∨
      (entry.insertedAt = moment.clock ∧ entry.lifetime = cached.cache.lifetime ∧
        cached.below.store.find? id = some entry.value) := by
  rcases reload_cases moment cached with ⟨_, loaded⟩ | ⟨_, refused⟩
  · rw [loaded] at held
    rcases entry_of_putAll held with ⟨entity, listed, rfl, rfl⟩ | before
    · exact .inr ⟨rfl, rfl, keyed.find?_of_mem listed⟩
    · exact absurd before Cache.not_held_clear
  · rw [refused] at held ⊢
    exact .inl ⟨held, fun ⟨loaded, succeeds⟩ => nomatch succeeds⟩

end Caching

end Switchboard

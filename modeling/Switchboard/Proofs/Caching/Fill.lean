/-
**Caches filled from a store.**

A reload puts what a store keeps into an empty cache, all of it at one time. A cache that is full makes room for the
next entity by dropping one of those before it; entities without a lifetime expire as they come.

* `Cache.size_put_new` — one more value under a new key is one more entry, up to the bound of the cache.
* `Caching.size_putAll` — so many values under new keys are as many more entries, up to the bound.
* `Cache.Fresh` — every entry was put at one time, for the lifetime of the cache; until that has passed, all of them
  are alive, and then none (`Cache.Fresh.live_eq`).
* `Cache.FilledFrom` — what is alive is what a store keeps, as much of it as there is room for. A cache in which
  everything was replaced by what a store keeps is filled from it (`Caching.filledFrom_putAll`).
-/

import Switchboard.Proofs.Cache.Eager
import Switchboard.Proofs.Caching.Reload
import Switchboard.Proofs.Store.Representation

namespace Switchboard

/-! ### One value under a new key -/

namespace EagerMap

variable {E : Type} {map : EagerMap E} {key : String}

/-- Everything in a map is alive. -/
def Settled (map : EagerMap E) : Prop := Table.alive map.clock map.entries = map.entries

/-- A value that lasts is one more entry under a new key. -/
theorem size_insert_new (settled : map.Settled) (new : map.entries.contains key = false)
    {entry : CacheEntry E} (lasting : entry.isExpired map.clock = false) :
    (map.insert key entry).entries.size = map.entries.size + 1 := by
  have kept : Table.alive map.clock (map.entries.insert key entry) = map.entries.insert key entry := by
    refine Std.ExtTreeMap.ext_getElem? fun other => ?_
    rw [Table.getElem?_alive, Table.getElem?_insert_eq]
    split
    · simp [Option.filter, lasting]
    · rw [← Table.getElem?_alive, settled]
  show (Table.alive map.clock (map.entries.insert key entry)).size = _
  rw [kept, Std.ExtTreeMap.size_insert]
  simp [new]

/-- **One more value under a new key is one more entry**, up to the bound of the map: one of the entries goes if the
map is full. -/
theorem size_put_new {victim : Nat → Table (CacheEntry E) → String} (settled : map.Settled)
    (most : map.entries.size ≤ map.capacity) (room : 0 < map.capacity) (lasting : 0 < map.lifetime)
    (held : map.entries ≠ ∅ → map.entries.contains (victim map.evictions map.entries) = true)
    (new : map.entries.contains key = false) (value : E) :
    (map.put victim key value none).entries.size = min (map.entries.size + 1) map.capacity := by
  have alive : (⟨value, map.clock, map.lifetime⟩ : CacheEntry E).isExpired map.clock = false :=
    CacheEntry.isExpired_eq_false.mpr (by rwa [Nat.sub_self])
  unfold put
  dsimp only [Option.getD_none]
  rw [new, Bool.false_or]
  by_cases roomy : map.entries.size < map.capacity
  · rw [if_pos (decide_eq_true roomy), size_insert_new settled new alive]
    omega
  -- A full map drops one entry for the new one, and has one to drop since it has room for any.
  · have nonempty : map.entries ≠ ∅ := by
      intro none
      have zero : map.entries.size = 0 := Std.ExtTreeMap.eq_empty_iff_size_eq_zero.mp none
      omega
    have kept : (map.displace victim).Settled := by
      show Table.alive map.clock (map.entries.erase _) = map.entries.erase _
      rw [Table.alive_erase, settled]
    have still : (map.displace victim).entries.contains key = false := by
      show (map.entries.erase _).contains key = false
      rw [Std.ExtTreeMap.contains_erase, new, Bool.and_false]
    have fewer : (map.displace victim).entries.size = map.entries.size - 1 := by
      show (map.entries.erase _).size = _
      rw [Std.ExtTreeMap.size_erase, if_pos (held nonempty)]
    rw [if_neg (by simpa using roomy), size_insert_new kept still alive, fewer]
    omega

end EagerMap

namespace Cache

variable {E : Type} {cache : Cache E} {now : Nat} {key : String}

theorem size_le (bounded : cache.Bounded) (now : Nat) : cache.size now ≤ cache.maxEntries :=
  Nat.le_trans (Table.size_alive_le now cache.entries) bounded.held

/-- **One more value under a new key is one more entry**, up to the bound of the cache. -/
theorem size_put_new (bounded : cache.Bounded) (lasting : 0 < cache.lifetime)
    (new : (cache.live now).contains key = false) (value : E) :
    (cache.put now key value none).size now = min (cache.size now + 1) cache.maxEntries := by
  have settled : (cache.seen now).Settled := Table.alive_alive (Nat.le_refl now) cache.entries
  have seen := congrArg (fun map : EagerMap E => map.entries.size) (seen_put bounded now key value none)
  refine seen.trans (EagerMap.size_put_new settled (size_le bounded now) bounded.room lasting
    (fun nonempty => ?_) new value)
  obtain ⟨oldest, held, _⟩ := oldest_victim cache.ties cache.stats.evictions nonempty
  exact Std.ExtTreeMap.contains_eq_isSome_getElem?.trans (Option.isSome_of_eq_some held)

/-- A key under which nothing is alive stays so when a value is put under another one. -/
theorem not_live_put {other : String} (differs : key ≠ other) (absent : (cache.live now).contains other = false)
    (value : E) : ((cache.put now key value none).live now).contains other = false := by
  rw [Std.ExtTreeMap.contains_eq_isSome_getElem?, Option.isSome_eq_false_iff, Option.isNone_iff_eq_none] at absent ⊢
  refine Option.eq_none_iff_forall_ne_some.mpr fun entry held => ?_
  rw [live, Std.ExtTreeMap.getElem?_filter', Option.filter_eq_some_iff] at held
  rcases entry_of_put held.1 with ⟨same, _⟩ | ⟨_, before⟩
  · exact differs same
  · rw [live, Std.ExtTreeMap.getElem?_filter', before, Option.filter_eq_none_iff] at absent
    exact absent entry rfl held.2

/-! ### Entries of one time -/

/-- Every entry was put at one time, for the lifetime of the cache. -/
def Fresh (clock : Nat) (cache : Cache E) : Prop :=
  ∀ (id : String) (entry : CacheEntry E), cache.entries[id]? = some entry →
    entry.insertedAt = clock ∧ entry.lifetime = cache.lifetime

/-- **Entries of one time are alive until their lifetime has passed**, and then none of them is. -/
theorem Fresh.live_eq {clock : Nat} (fresh : cache.Fresh clock) (elapsed : Nat) :
    cache.live (clock + elapsed) = if elapsed < cache.lifetime then cache.entries else ∅ := by
  refine Std.ExtTreeMap.ext_getElem? fun id => ?_
  have looked : (cache.live (clock + elapsed))[id]? =
      cache.entries[id]?.filter fun entry => !entry.isExpired (clock + elapsed) :=
    Table.getElem?_alive _ _ _
  rw [looked]
  cases held : cache.entries[id]? with
  | none => split <;> simp [held]
  | some entry =>
    obtain ⟨inserted, lifetime⟩ := fresh id entry held
    have age : entry.isExpired (clock + elapsed) = decide (cache.lifetime ≤ elapsed) := by
      unfold CacheEntry.isExpired
      rw [inserted, lifetime, Nat.add_sub_cancel_left]
    by_cases young : elapsed < cache.lifetime
    · rw [if_pos young, held]
      simp [Option.filter, age, young]
    · rw [if_neg young]
      simp [Option.filter, age, young]

end Cache

namespace Caching

variable {E : Type} [Entity E] {clock : Nat} {cache : Cache E}

/-! ### Many values under new keys -/

theorem maxEntries_putAll (clock : Nat) (entities : List E) (cache : Cache E) :
    (putAll clock entities cache).maxEntries = cache.maxEntries := by
  induction entities generalizing cache with
  | nil => rfl
  | cons entity rest ih => exact (ih _).trans (Cache.maxEntries_put _ _ _ _ _)

/-- **So many values under new keys are as many more entries**, up to the bound of the cache. -/
theorem size_putAll {entities : List E} (bounded : cache.Bounded) (lasting : 0 < cache.lifetime)
    (distinct : entities.Pairwise fun first second => Entity.id first ≠ Entity.id second)
    (new : ∀ entity ∈ entities, (cache.live clock).contains (Entity.id entity) = false) :
    (putAll clock entities cache).size clock = min (cache.size clock + entities.length) cache.maxEntries := by
  induction entities generalizing cache with
  | nil => exact (Nat.min_eq_left (Cache.size_le bounded clock)).symm
  | cons entity rest ih =>
    obtain ⟨others, distinct⟩ := List.pairwise_cons.mp distinct
    obtain ⟨first, remaining⟩ := List.forall_mem_cons.mp new
    have step := Cache.size_put_new bounded lasting first entity
    have still : ∀ other ∈ rest,
        ((cache.put clock (Entity.id entity) entity none).live clock).contains (Entity.id other) = false :=
      fun other listed => Cache.not_live_put (others other listed) (remaining other listed) entity
    have bound := Cache.maxEntries_put cache clock (Entity.id entity) entity none
    have rest := ih (Cache.bounded_put bounded clock (Entity.id entity) entity none)
      (by rwa [Cache.lifetime_put]) distinct still
    refine rest.trans ?_
    rw [step, bound, List.length_cons]
    omega

/-- **What a store keeps fills an empty cache**, up to its bound. -/
theorem size_putAll_clear {store : Store E} (room : 0 < cache.maxEntries) (lasting : 0 < cache.lifetime)
    (keyed : store.Keyed) :
    (putAll clock store.toList cache.clear).size clock = min store.size cache.maxEntries := by
  have none : cache.clear.live clock = ∅ := Table.alive_empty clock
  have bounded : cache.clear.Bounded := ⟨Nat.zero_le _, room⟩
  have new : ∀ entity ∈ store.toList, (cache.clear.live clock).contains (Entity.id entity) = false := by
    intro entity _
    rw [none, Std.ExtTreeMap.contains_empty]
  rw [size_putAll bounded lasting keyed.distinct new, Cache.size, none, Std.ExtTreeMap.size_empty, Nat.zero_add,
    ← Store.size_eq_length]
  rfl

/-- What is put after everything was dropped is put at one time, for the lifetime of the cache. -/
theorem fresh_putAll (clock : Nat) (entities : List E) (cache : Cache E) :
    (putAll clock entities cache.clear).Fresh clock := by
  intro id entry held
  rw [lifetime_putAll]
  rcases entry_of_putAll held with ⟨entity, _, _, rfl⟩ | before
  · exact ⟨rfl, rfl⟩
  · exact absurd before Cache.not_held_clear

end Caching

/-! ### What a store keeps -/

/-- One cache was made of another at a time by putting in what a store keeps, with as much of it as there is room for.
From then on, until the lifetime has passed, what is alive is what the store keeps under its identifier. -/
structure Cache.FilledFrom {E : Type} (store : Store E) (clock : Nat) (before after : Cache E) : Prop where
  lifetime : after.lifetime = before.lifetime
  maxEntries : after.maxEntries = before.maxEntries
  stored : ∀ elapsed (id : String) entry, (after.live (clock + elapsed))[id]? = some entry →
    store.find? id = some entry.value
  absent : ∀ elapsed id, store.find? id = none → id ∉ after.keys (clock + elapsed)
  size : ∀ elapsed, after.size (clock + elapsed) =
    if elapsed < before.lifetime then min store.size before.maxEntries else 0

/-- **A cache in which everything was replaced by what a store keeps is filled from the store.** -/
theorem Caching.filledFrom_putAll {E : Type} [Entity E] {store : Store E} (keyed : store.Keyed) {cache : Cache E}
    (room : 0 < cache.maxEntries) (clock : Nat) :
    cache.FilledFrom store clock (putAll clock store.toList cache.clear) := by
  have fresh := fresh_putAll clock store.toList cache
  have lifetime : (putAll clock store.toList cache.clear).lifetime = cache.lifetime := lifetime_putAll _ _ _
  have stored : ∀ elapsed (id : String) entry,
      ((putAll clock store.toList cache.clear).live (clock + elapsed))[id]? = some entry →
        store.find? id = some entry.value := by
    intro elapsed id entry held
    rw [Cache.live, Std.ExtTreeMap.getElem?_filter', Option.filter_eq_some_iff] at held
    rcases entry_of_putAll held.1 with ⟨entity, listed, rfl, rfl⟩ | before
    · exact keyed.find?_of_mem listed
    · exact absurd before Cache.not_held_clear
  refine ⟨lifetime, maxEntries_putAll _ _ _, stored, fun elapsed id missing held => ?_, fun elapsed => ?_⟩
  · have alive := Std.ExtTreeMap.mem_keys.mp held
    rw [Std.ExtTreeMap.mem_iff_isSome_getElem?] at alive
    obtain ⟨entry, found⟩ := Option.isSome_iff_exists.mp alive
    exact nomatch missing.symm.trans (stored elapsed id entry found)
  · rw [Cache.size, fresh.live_eq, lifetime]
    split
    next young =>
      -- As long as the entries are alive, they are as many as when they were put.
      have lasting : 0 < cache.lifetime := Nat.lt_of_le_of_lt (Nat.zero_le elapsed) young
      have now := fresh.live_eq 0
      rw [lifetime, if_pos lasting, Nat.add_zero] at now
      rw [← now]
      exact size_putAll_clear room lasting keyed
    next old => exact Std.ExtTreeMap.size_empty

end Switchboard

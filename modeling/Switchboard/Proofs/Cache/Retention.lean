/-
**How an entry leaves a cache.**

Reads, sweeps and insertions take no entry away that is alive, except that a full cache makes room by dropping one of
the oldest. So an entry that goes was crowded out: all room was taken by entries no older than it.

* `Cache.Crowded` — the room of a cache is taken by entries inserted at a time or later. Fewer other keys than the
  cache may hold do not crowd it (`Cache.Crowded.count`).
* `Cache.held_put` — **an entry that is alive stays when a value is put under another key**, unless the cache was
  crowded.
* `Cache.Retains` — what is alive and not touched stays, unless it is crowded out: so it is after every operation
  (`Cache.retains_get`, `Cache.retains_put`, `Cache.retains_evict`, `Cache.retains_clear`, `Cache.retains_sweep`).
-/

import Mathlib.Data.List.Perm.Subperm
import Switchboard.Proofs.Cache.Eager

namespace Switchboard

namespace Cache

variable {E : Type} {cache smaller : Cache E} {now since : Nat} {key id : String} {entry : CacheEntry E}

/-- Keys without a given one, as many as a cache may hold, all have entries that were inserted at a time or later. -/
def Crowded (cache : Cache E) (since : Nat) (key : String) : Prop :=
  ∃ keys : List String, keys.Nodup ∧ keys.length = cache.maxEntries ∧ key ∉ keys ∧
    ∀ other ∈ keys, ∃ entry, cache.entries[other]? = some entry ∧ since ≤ entry.insertedAt

theorem Crowded.of_within (crowded : smaller.Crowded since key) (within : smaller.Within cache)
    (same : smaller.maxEntries = cache.maxEntries) : cache.Crowded since key := by
  obtain ⟨keys, distinct, many, other, held⟩ := crowded
  refine ⟨keys, distinct, many.trans same, other, fun listed member => ?_⟩
  obtain ⟨entry, kept, late⟩ := held listed member
  exact ⟨entry, within listed entry kept, late⟩

/-! ### Entries that stay -/

theorem held_evict (held : cache.entries[id]? = some entry) (differs : key ≠ id) :
    (cache.evict key).entries[id]? = some entry :=
  (Table.getElem?_erase_eq _ _).trans ((if_neg differs).trans held)

/-- A read takes no entry away that is alive. -/
theorem held_get (held : cache.entries[id]? = some entry) (alive : entry.isExpired now = false) (key : String) :
    (cache.get now key).2.entries[id]? = some entry := by
  unfold get
  split
  next other found =>
    split
    next expired =>
      refine held_evict held fun same => ?_
      subst same
      cases held.symm.trans found
      exact absurd expired (ne_true_of_eq_false alive)
    · exact held
  · exact held

theorem live_of_held (held : cache.entries[id]? = some entry) (alive : entry.isExpired now = false) :
    (cache.live now)[id]? = some entry := by
  rw [live, Std.ExtTreeMap.getElem?_filter', held]
  simp [Option.filter, alive]

/-- A sweep takes no entry away that is alive. -/
theorem held_sweep (held : cache.entries[id]? = some entry) (alive : entry.isExpired now = false) :
    (cache.sweep now).2.entries[id]? = some entry := live_of_held held alive

/-- A read answers with the entry that is alive. -/
theorem get_of_live {entry : CacheEntry E} (live : (cache.live now)[key]? = some entry) :
    (cache.get now key).1 = some entry.value := by
  have seen : (cache.seen now).entries[key]? = some entry := live
  rw [(seen_get cache now key).1, EagerMap.get, seen]

/-- A read in vain answers nothing, and leaves nothing under the key. -/
theorem get_of_dead (dead : (cache.live now)[key]? = none) :
    (cache.get now key).1 = none ∧ (cache.get now key).2.entries[key]? = none := by
  have seen : (cache.seen now).entries[key]? = none := dead
  refine ⟨by rw [(seen_get cache now key).1, EagerMap.get, seen], ?_⟩
  unfold get
  split
  next entry held =>
    split
    · exact (Table.getElem?_erase_eq _ _).trans (if_pos rfl)
    next alive => cases dead.symm.trans (live_of_held held (eq_false_of_ne_true alive))
  next none => exact none

/-! ### Entries that make room -/

/-- If one of the oldest entries that are alive has to go, the cache is crowded by entries no older than it. -/
theorem crowded_of_oldest (full : (cache.live now).size = cache.maxEntries) (held : (cache.live now)[id]? = some entry)
    (oldest : Table.Oldest (cache.live now) id) (new : key ∉ cache.entries) : cache.Crowded entry.insertedAt key := by
  obtain ⟨_, found, least⟩ := oldest
  cases held.symm.trans found
  refine ⟨(cache.live now).keys, ?_, ?_, fun listed => ?_, fun other listed => ?_⟩
  · exact Std.ExtTreeMap.nodup_keys
  · exact Std.ExtTreeMap.length_keys.trans full
  · exact new (Table.mem_of_mem_alive (Std.ExtTreeMap.mem_keys.mp listed))
  · obtain ⟨younger, alive⟩ := Option.isSome_iff_exists.mp
      (Std.ExtTreeMap.mem_iff_isSome_getElem?.mp (Std.ExtTreeMap.mem_keys.mp listed))
    exact ⟨younger, within_sweep cache now other younger alive, least other younger alive⟩

/-- **An entry that is alive stays when room is made for a new key**, unless the cache was crowded. -/
theorem held_makeRoom (bounded : cache.Bounded) (held : cache.entries[id]? = some entry)
    (alive : entry.isExpired now = false) (new : key ∉ cache.entries) :
    (cache.makeRoom now).entries[id]? = some entry ∨ cache.Crowded entry.insertedAt key := by
  have living := live_of_held held alive
  have roomed := congrArg EagerMap.entries (seen_makeRoom bounded now).1
  by_cases roomy : (cache.live now).size < cache.maxEntries
  · rw [if_pos roomy] at roomed
    left
    have kept : ((cache.makeRoom now).live now)[id]? = some entry := by
      rw [show (cache.makeRoom now).live now = cache.live now from roomed]
      exact living
    exact within_sweep _ now id entry kept
  · rw [if_neg roomy] at roomed
    have full : (cache.live now).size = cache.maxEntries :=
      Nat.le_antisymm (Nat.le_trans (Table.size_alive_le now cache.entries) bounded.held) (Nat.le_of_not_lt roomy)
    by_cases chosen : victim cache.ties cache.stats.evictions (cache.live now) = id
    · right
      have nonempty : cache.live now ≠ ∅ := by
        intro none
        rw [none, Std.ExtTreeMap.getElem?_empty] at living
        cases living
      exact crowded_of_oldest full living (chosen ▸ oldest_victim _ _ nonempty) new
    · left
      have kept : ((cache.makeRoom now).live now)[id]? = some entry := by
        rw [show (cache.makeRoom now).live now = (cache.live now).erase
            (victim cache.ties cache.stats.evictions (cache.live now)) from roomed,
          Table.getElem?_erase_eq, if_neg chosen]
        exact living
      exact within_sweep _ now id entry kept

/-- **An entry that is alive stays when a value is put under another key**, unless the cache was crowded. -/
theorem held_put (bounded : cache.Bounded) (held : cache.entries[id]? = some entry)
    (alive : entry.isExpired now = false) (differs : key ≠ id) (value : E) (lifetime : Option Nat) :
    (cache.put now key value lifetime).entries[id]? = some entry ∨ cache.Crowded entry.insertedAt key := by
  have inserted {room : Cache E} (other : CacheEntry E) (kept : room.entries[id]? = some entry) :
      (room.insert key other).entries[id]? = some entry :=
    (Table.getElem?_insert_eq _ _ _).trans ((if_neg differs).trans kept)
  unfold put
  simp only [Bool.or_eq_true, decide_eq_true_eq]
  split
  · exact .inl (inserted _ held)
  next unfit =>
    have new : key ∉ cache.entries := fun found => unfit (.inl (Std.ExtTreeMap.mem_iff_contains.mp found))
    exact (held_makeRoom bounded held alive new).imp_left (inserted _)

/-- The entry of a value that was put. -/
theorem held_put_self (cache : Cache E) (now : Nat) (key : String) (value : E) :
    (cache.put now key value none).entries[key]? = some ⟨value, now, cache.lifetime⟩ := by
  unfold put
  split <;> exact (Table.getElem?_insert_eq _ _ _).trans (if_pos rfl)

/-- **Fewer other keys than a cache may hold do not crowd it.** -/
theorem Crowded.count (crowded : cache.Crowded since key) (differs : key ≠ id) {others : List String}
    (counted : ∀ other, other ≠ id → (other = key ∨ ∃ entry, cache.entries[other]? = some entry ∧
      since ≤ entry.insertedAt) → other ∈ others) : cache.maxEntries ≤ others.length := by
  obtain ⟨keys, distinct, many, absent, held⟩ := crowded
  -- The new key takes the place of the one that goes.
  have listed : key :: keys.erase id ⊆ others := by
    intro other member
    rcases List.mem_cons.mp member with rfl | rest
    · exact counted _ differs (.inl rfl)
    · obtain ⟨apart, member⟩ := distinct.mem_erase_iff.mp rest
      exact counted other apart (.inr (held other member))
  have separate : (key :: keys.erase id).Nodup :=
    List.nodup_cons.mpr ⟨fun member => absent (List.mem_of_mem_erase member), distinct.erase id⟩
  have enough := (List.subperm_of_subset separate listed).length_le
  have fewer : keys.length - 1 ≤ (keys.erase id).length := List.le_length_erase
  rw [List.length_cons] at enough
  omega

/-! ### Retaining -/

/-- The room of a cache was taken by entries inserted at a time or later, and a value under one more key came. -/
def CrowdedOut (now since : Nat) (id : String) (before after : Cache E) : Prop :=
  ∃ key, key ≠ id ∧ before.Crowded since key ∧
    ∃ entry, after.entries[key]? = some entry ∧ entry.insertedAt = now

/-- One cache is made of another at a time: it stays bounded as it was, and what is alive and not touched stays, unless
it is crowded out. -/
structure Retains (now : Nat) (touches : String → Prop) (before after : Cache E) : Prop where
  maxEntries : after.maxEntries = before.maxEntries
  bounded : after.Bounded
  entry : ∀ (id : String) (entry : CacheEntry E), ¬touches id → before.entries[id]? = some entry →
    entry.isExpired now = false →
      after.entries[id]? = some entry ∨ CrowdedOut now entry.insertedAt id before after

variable {touches : String → Prop}

theorem Retains.refl (bounded : cache.Bounded) : cache.Retains now touches cache :=
  ⟨rfl, bounded, fun _ _ _ held _ => .inl held⟩

theorem retains_get (bounded : cache.Bounded) (key : String) :
    cache.Retains now touches (cache.get now key).2 where
  maxEntries := maxEntries_get cache now key
  bounded := bounded_get bounded key
  entry _ _ _ held alive := .inl (held_get held alive key)

theorem retains_evict (bounded : cache.Bounded) (touched : touches key) :
    cache.Retains now touches (cache.evict key) where
  maxEntries := rfl
  bounded := bounded_evict bounded key
  entry _ _ untouched held _ := .inl (held_evict held fun same => untouched (same ▸ touched))

theorem retains_clear (bounded : cache.Bounded) (touched : ∀ id, touches id) :
    cache.Retains now touches cache.clear where
  maxEntries := rfl
  bounded := bounded_clear bounded
  entry id _ untouched _ _ := absurd (touched id) untouched

theorem retains_sweep (bounded : cache.Bounded) : cache.Retains now touches (cache.sweep now).2 where
  maxEntries := rfl
  bounded := bounded_sweep bounded now
  entry _ _ _ held alive := .inl (held_sweep held alive)

theorem retains_put (bounded : cache.Bounded) (touched : touches key) (value : E) :
    cache.Retains now touches (cache.put now key value none) where
  maxEntries := maxEntries_put cache now key value none
  bounded := bounded_put bounded now key value none
  entry id entry untouched held alive := by
    have differs : key ≠ id := fun same => untouched (same ▸ touched)
    exact (held_put bounded held alive differs value none).imp_right fun crowded =>
      ⟨key, differs, crowded, _, held_put_self cache now key value, rfl⟩

/-- What expires under a key that is looked up in vain goes, and a value that was found elsewhere is put there. -/
theorem retains_get_put (bounded : cache.Bounded) (dead : (cache.live now)[key]? = none) (value : E) :
    cache.Retains now touches ((cache.get now key).2.put now key value none) where
  maxEntries := (maxEntries_put _ _ _ _ _).trans (maxEntries_get cache now key)
  bounded := bounded_put (bounded_get bounded key) now key value none
  entry id entry _ held alive := by
    have differs : key ≠ id := by
      rintro rfl
      cases dead.symm.trans (live_of_held held alive)
    have kept := held_get held alive key
    refine (held_put (bounded_get bounded key) kept alive differs value none).imp_right fun crowded => ?_
    have within := crowded.of_within (within_get cache now key) (maxEntries_get cache now key)
    exact ⟨key, differs, within, _, held_put_self _ now key value, rfl⟩

end Cache

end Switchboard

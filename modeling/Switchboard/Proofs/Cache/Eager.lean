/-
**A map that forgets in time.**

* `EagerMap` — a bounded map in which an entry is gone as soon as its age reaches its lifetime. A value
  under a key that is held replaces the one before it; a value under any other key is added, and if the
  map is full, one of the oldest entries goes first. Which of them is a parameter.
* `Cache.seen` — what a cache shows of itself, as such a map: what is alive, and the counters.
* `Cache.seen_get`, `Cache.seen_put`, `Cache.seen_evict`, `Cache.seen_clear`, `Cache.seen_sweep`,
  `Cache.seen_later` — every operation on a cache, and time passing, is seen as the same on the map. What
  has expired and is still in the cache makes no difference.
-/

import Switchboard.Proofs.Cache.Alive

namespace Switchboard

/-- A bounded map at a time, with the entries that are alive then. -/
structure EagerMap (E : Type) where
  clock : Nat
  lifetime : Nat
  capacity : Nat
  entries : Table (CacheEntry E) := ∅
  hits : Nat := 0
  misses : Nat := 0
  inserts : Nat := 0
  evictions : Nat := 0

namespace EagerMap

variable {E : Type}

/-- The value under a key, and the map after it was asked for. -/
def get (map : EagerMap E) (key : String) : Option E × EagerMap E :=
  match map.entries[key]? with
  | some entry => (some entry.value, { map with hits := map.hits + 1 })
  | none => (none, { map with misses := map.misses + 1 })

/-- The map with an entry, which is gone at once if it has no lifetime. -/
def insert (map : EagerMap E) (key : String) (entry : CacheEntry E) : EagerMap E :=
  { map with
    entries := Table.alive map.clock (map.entries.insert key entry)
    inserts := map.inserts + 1 }

/-- The map without one of its oldest entries. -/
def displace (victim : Nat → Table (CacheEntry E) → String) (map : EagerMap E) : EagerMap E :=
  { map with
    entries := map.entries.erase (victim map.evictions map.entries)
    evictions := map.evictions + 1 }

/-- The map with a value under a key, with a lifetime of its own or that of the map. -/
def put (victim : Nat → Table (CacheEntry E) → String) (map : EagerMap E) (key : String) (value : E)
    (lifetime : Option Nat) : EagerMap E :=
  let entry : CacheEntry E := ⟨value, map.clock, lifetime.getD map.lifetime⟩
  if map.entries.contains key || map.entries.size < map.capacity then map.insert key entry
  else (map.displace victim).insert key entry

/-- The map without a key. -/
def evict (map : EagerMap E) (key : String) : EagerMap E :=
  { map with entries := map.entries.erase key }

/-- The map without entries. -/
def clear (map : EagerMap E) : EagerMap E := { map with entries := ∅ }

/-- The map at a later time. -/
def pass (map : EagerMap E) (clock : Nat) : EagerMap E :=
  { map with clock, entries := Table.alive clock map.entries }

end EagerMap

namespace Cache

variable {E : Type} {cache : Cache E} {now : Nat}

/-- What a cache shows of itself. -/
def seen (now : Nat) (cache : Cache E) : EagerMap E where
  clock := now
  lifetime := cache.lifetime
  capacity := cache.maxEntries
  entries := cache.live now
  hits := cache.stats.hits
  misses := cache.stats.misses
  inserts := cache.stats.inserts
  evictions := cache.stats.evictions

/-- A cache holds at most as many entries as it may, and may hold one. -/
structure Bounded (cache : Cache E) : Prop where
  held : cache.entries.size ≤ cache.maxEntries
  room : 0 < cache.maxEntries

/-- The entry that a cache drops to make room, of those that are alive, after so many evictions. -/
def victim (ties : Nat → Nat) (evictions : Nat) (entries : Table (CacheEntry E)) : String :=
  (oldest? { entries, lifetime := 0, maxEntries := 0, ties, stats := { evictions } }).getD ""

/-- **The entry that a cache drops is one of the oldest.** -/
theorem oldest_victim {entries : Table (CacheEntry E)} (ties : Nat → Nat) (evictions : Nat)
    (nonempty : entries ≠ ∅) : Table.Oldest entries (victim ties evictions entries) := by
  have some_oldest : ∃ key,
      oldest? { entries, lifetime := 0, maxEntries := 0, ties, stats := { evictions } } = some key :=
    oldest?_isSome nonempty
  obtain ⟨key, chosen⟩ := some_oldest
  unfold victim
  rw [chosen, Option.getD_some]
  exact oldest_of_oldest? chosen

/-- **Any of the oldest entries can be the one that goes.** -/
theorem oldest_iff_victim {entries : Table (CacheEntry E)} {key : String} (evictions : Nat)
    (nonempty : entries ≠ ∅) :
    Table.Oldest entries key ↔ ∃ ties, victim ties evictions entries = key := by
  constructor
  · intro oldest
    obtain ⟨index, found⟩ := List.mem_iff_getElem?.mp (mem_oldestKeys.mpr oldest)
    obtain ⟨listed, _⟩ := List.getElem?_eq_some_iff.mp found
    refine ⟨fun _ => index, ?_⟩
    unfold victim oldest?
    dsimp only
    rw [Nat.mod_eq_of_lt listed, found, Option.getD_some]
  · rintro ⟨ties, rfl⟩
    exact oldest_victim ties evictions nonempty

/-! ### Reads -/

/-- **A read is seen as a read**: it answers from what is alive and renews nothing. -/
theorem seen_get (cache : Cache E) (now : Nat) (key : String) :
    (cache.get now key).1 = ((cache.seen now).get key).1 ∧
      (cache.get now key).2.seen now = ((cache.seen now).get key).2 := by
  have lookUp : (cache.seen now).entries[key]? = cache.entries[key]?.filter fun entry =>
    !entry.isExpired now := Table.getElem?_alive now cache.entries key
  unfold Cache.get EagerMap.get
  rw [lookUp]
  cases held : cache.entries[key]? with
  | none => exact ⟨rfl, rfl⟩
  | some entry =>
    cases expired : entry.isExpired now with
    | false =>
      simp only [Option.filter, expired, Bool.not_false, if_true, Bool.false_eq_true, if_false]
      exact ⟨trivial, rfl⟩
    | true =>
      have dead : key ∉ Table.alive now cache.entries := by
        rw [Std.ExtTreeMap.mem_iff_isSome_getElem?, Table.getElem?_alive, held]
        simp [Option.filter, expired]
      have gone : ∀ stats, ({ cache with entries := cache.entries.erase key, stats } : Cache E).live
          now = cache.live now := by
        intro stats
        show Table.alive now (cache.entries.erase key) = Table.alive now cache.entries
        rw [Table.alive_erase, Table.erase_of_not_mem dead]
      simp only [Option.filter, expired, Bool.not_true, if_true, Bool.false_eq_true, if_false]
      refine ⟨trivial, ?_⟩
      unfold seen
      rw [gone]

/-- A read renews no entry that is alive. -/
theorem live_get (cache : Cache E) (now : Nat) (key : String) :
    (cache.get now key).2.live now = cache.live now := by
  have kept : ((cache.seen now).get key).2.entries = (cache.seen now).entries := by
    unfold EagerMap.get
    split <;> rfl
  exact (congrArg EagerMap.entries (seen_get cache now key).2).trans kept

theorem bounded_get (bounded : cache.Bounded) (key : String) :
    (cache.get now key).2.Bounded := by
  unfold get
  split
  · split
    · exact ⟨Nat.le_trans Std.ExtTreeMap.size_erase_le bounded.held, bounded.room⟩
    · exact ⟨bounded.held, bounded.room⟩
  · exact ⟨bounded.held, bounded.room⟩

/-! ### Entries that go -/

theorem seen_evict (cache : Cache E) (now : Nat) (key : String) :
    (cache.evict key).seen now = (cache.seen now).evict key := by
  have gone : (cache.evict key).live now = (cache.live now).erase key :=
    Table.alive_erase now cache.entries key
  unfold seen EagerMap.evict
  rw [gone]
  rfl

theorem seen_clear (cache : Cache E) (now : Nat) : cache.clear.seen now = (cache.seen now).clear := by
  have gone : cache.clear.live now = ∅ := Table.alive_empty now
  unfold seen EagerMap.clear
  rw [gone]
  rfl

/-- **A sweep is not seen.** -/
theorem seen_sweep (cache : Cache E) (now : Nat) : (cache.sweep now).2.seen now = cache.seen now := by
  have same : (cache.sweep now).2.live now = cache.live now :=
    Table.alive_alive (Nat.le_refl now) cache.entries
  unfold seen
  rw [same]
  rfl

/-- **As time passes, what expires is gone.** -/
theorem seen_later {later : Nat} (order : now ≤ later) (cache : Cache E) :
    cache.seen later = (cache.seen now).pass later := by
  have same : Table.alive later (cache.live now) = cache.live later :=
    Table.alive_alive order cache.entries
  unfold EagerMap.pass seen
  rw [same]

theorem bounded_evict (bounded : cache.Bounded) (key : String) : (cache.evict key).Bounded :=
  ⟨Nat.le_trans Std.ExtTreeMap.size_erase_le bounded.held, bounded.room⟩

theorem bounded_clear (bounded : cache.Bounded) : cache.clear.Bounded :=
  ⟨Nat.zero_le _, bounded.room⟩

theorem bounded_sweep (bounded : cache.Bounded) (now : Nat) : (cache.sweep now).2.Bounded :=
  ⟨Nat.le_trans (Table.size_alive_le now cache.entries) bounded.held, bounded.room⟩

/-! ### Insertions -/

theorem seen_insert (cache : Cache E) (now : Nat) (key : String) (entry : CacheEntry E) :
    (cache.insert key entry).seen now = (cache.seen now).insert key entry := by
  have same : (cache.insert key entry).live now =
    Table.alive now ((cache.live now).insert key entry) :=
    (Table.alive_insert now cache.entries key entry).symm
  unfold seen EagerMap.insert
  rw [same]
  rfl

/-- A cache without entries that have expired drops one of the oldest. -/
theorem seen_evictOldest (now : Nat) (fresh : cache.live now = cache.entries)
    (nonempty : cache.entries ≠ ∅) :
    cache.evictOldest.seen now = (cache.seen now).displace (victim cache.ties) ∧
      cache.evictOldest.entries.size = cache.entries.size - 1 := by
  obtain ⟨key, chosen⟩ := oldest?_isSome nonempty
  obtain ⟨entry, held, _⟩ := oldest_of_oldest? chosen
  have same : victim cache.ties cache.stats.evictions (cache.live now) = key := by
    rw [fresh]
    show (cache.oldest?).getD "" = key
    rw [chosen, Option.getD_some]
  have listed : cache.entries.contains key = true := by
    rw [← Std.ExtTreeMap.mem_iff_contains, Std.ExtTreeMap.mem_iff_isSome_getElem?, held]
    rfl
  have dropped : cache.evictOldest = { cache with
      entries := cache.entries.erase key
      stats := { cache.stats with evictions := cache.stats.evictions + 1 } } := by
    unfold evictOldest
    rw [chosen]
  have gone : cache.evictOldest.live now = (cache.live now).erase key := by
    rw [dropped]
    exact Table.alive_erase now cache.entries key
  constructor
  · unfold EagerMap.displace seen
    dsimp only
    rw [gone, same, dropped]
  · rw [dropped]
    show (cache.entries.erase key).size = _
    rw [Std.ExtTreeMap.size_erase, if_pos listed]

theorem makeRoom_of_room (roomy : (cache.live now).size < cache.maxEntries) :
    cache.makeRoom now = cache.dropExpired now := by
  have none : (cache.live now).size + 1 - cache.maxEntries = 0 := by omega
  show Nat.repeat evictOldest ((cache.live now).size + 1 - cache.maxEntries) _ = _
  rw [none]
  rfl

theorem makeRoom_of_full (full : (cache.live now).size = cache.maxEntries) :
    cache.makeRoom now = (cache.dropExpired now).evictOldest := by
  have one : (cache.live now).size + 1 - cache.maxEntries = 1 := by omega
  show Nat.repeat evictOldest ((cache.live now).size + 1 - cache.maxEntries) _ = _
  rw [one]
  rfl

/-- **Room is made** by dropping what has expired and then, if the cache is full of what is alive, one of
the oldest entries. -/
theorem seen_makeRoom (bounded : cache.Bounded) (now : Nat) :
    (cache.makeRoom now).seen now =
        (if (cache.live now).size < cache.maxEntries then cache.seen now
          else (cache.seen now).displace (victim cache.ties)) ∧
      (cache.makeRoom now).entries.size < cache.maxEntries := by
  have kept : (cache.dropExpired now).seen now = cache.seen now := seen_sweep cache now
  have fewer : (cache.live now).size ≤ cache.maxEntries :=
    Nat.le_trans (Table.size_alive_le now cache.entries) bounded.held
  by_cases roomy : (cache.live now).size < cache.maxEntries
  · rw [if_pos roomy, makeRoom_of_room roomy]
    exact ⟨kept, roomy⟩
  · have full : (cache.live now).size = cache.maxEntries := by omega
    have room := bounded.room
    have fresh : (cache.dropExpired now).live now = (cache.dropExpired now).entries :=
      Table.alive_alive (Nat.le_refl now) cache.entries
    have nonempty : (cache.dropExpired now).entries ≠ ∅ := by
      intro empty
      have none : (cache.live now).size = 0 := Std.ExtTreeMap.eq_empty_iff_size_eq_zero.mp empty
      omega
    obtain ⟨displaced, smaller⟩ := seen_evictOldest now fresh nonempty
    rw [if_neg roomy, makeRoom_of_full full, displaced, kept, smaller]
    refine ⟨rfl, ?_⟩
    show (cache.live now).size - 1 < cache.maxEntries
    omega

/-- Whether a cache can take a key as it is, or needs room first. -/
theorem roomy_of_fits (bounded : cache.Bounded) {key : String}
    (fits : cache.entries.contains key = true ∨ cache.entries.size < cache.maxEntries) :
    (cache.live now).contains key = true ∨ (cache.live now).size < cache.maxEntries := by
  by_cases alive : key ∈ cache.live now
  · exact .inl (Std.ExtTreeMap.mem_iff_contains.mp alive)
  · right
    have bound := bounded.held
    rcases fits with held | room
    · have fewer := Table.size_alive_lt (Std.ExtTreeMap.mem_iff_contains.mpr held) alive
      exact Nat.lt_of_lt_of_le fewer bound
    · exact Nat.lt_of_le_of_lt (Table.size_alive_le now cache.entries) room

/-- **An insertion is seen as an insertion.** Whether a value replaces another one and whether an entry
has to go depends only on what is alive, although the cache looks at all that it holds. -/
theorem seen_put (bounded : cache.Bounded) (now : Nat) (key : String) (value : E)
    (lifetime : Option Nat) :
    (cache.put now key value lifetime).seen now =
      (cache.seen now).put (victim cache.ties) key value lifetime := by
  have asSeen : (cache.seen now).put (victim cache.ties) key value lifetime =
      if (cache.live now).contains key = true ∨ (cache.live now).size < cache.maxEntries then
        (cache.seen now).insert key ⟨value, now, lifetime.getD cache.lifetime⟩
      else ((cache.seen now).displace (victim cache.ties)).insert key ⟨value, now, lifetime.getD cache.lifetime⟩ := by
    unfold EagerMap.put
    simp only [Bool.or_eq_true, decide_eq_true_eq]
    rfl
  rw [asSeen]
  unfold put
  simp only [Bool.or_eq_true, decide_eq_true_eq]
  split
  next fits =>
    rw [if_pos (roomy_of_fits bounded fits)]
    exact seen_insert cache now key _
  next unfit =>
    rw [not_or] at unfit
    have dead : ¬(cache.live now).contains key = true := by
      rw [← Std.ExtTreeMap.mem_iff_contains]
      intro alive
      exact unfit.1 (Std.ExtTreeMap.mem_iff_contains.mp (Table.mem_of_mem_alive alive))
    obtain ⟨room, _⟩ := seen_makeRoom bounded now
    rw [seen_insert, room]
    by_cases roomy : (cache.live now).size < cache.maxEntries
    · rw [if_pos roomy, if_pos (.inr roomy)]
    · rw [if_neg roomy, if_neg (not_or.mpr ⟨dead, roomy⟩)]

/-- **A cache never holds more than it may**, what has expired included. -/
theorem bounded_put (bounded : cache.Bounded) (now : Nat) (key : String) (value : E)
    (lifetime : Option Nat) : (cache.put now key value lifetime).Bounded := by
  have grown : ∀ (room : Cache E) entry, room.maxEntries = cache.maxEntries →
      room.entries.contains key = true ∧ room.entries.size ≤ cache.maxEntries ∨
        room.entries.size < cache.maxEntries → (room.insert key entry).Bounded := by
    intro room entry same fits
    refine ⟨?_, ?_⟩
    · show (room.entries.insert key entry).size ≤ room.maxEntries
      rw [Std.ExtTreeMap.size_insert, same]
      rcases fits with ⟨held, bound⟩ | less
      · rw [if_pos held]
        exact bound
      · split <;> omega
    · show 0 < room.maxEntries
      rw [same]
      exact bounded.room
  unfold put
  simp only [Bool.or_eq_true, decide_eq_true_eq]
  split
  next fits => exact grown cache _ rfl (fits.imp (fun held => ⟨held, bounded.held⟩) id)
  next unfit =>
    exact grown _ _ (maxEntries_makeRoom cache now) (.inr (seen_makeRoom bounded now).2)

end Cache

end Switchboard

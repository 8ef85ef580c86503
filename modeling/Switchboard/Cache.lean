/-
**A bounded cache with lifetimes.**

An entry lives until its age reaches its lifetime; reading does not renew it. An entry that has
expired stays in the table until it is met: by a read of its key, by a sweep, or when room is needed.

* `Cache.get`, `Cache.put`, `Cache.evict`, `Cache.clear` — the operations on keys.
* `Cache.sweep` — drops what has expired.
* `Cache.keys`, `Cache.size` — what is alive.
* a full cache makes room for a new key by dropping what has expired and then the oldest entries. Which of
  several oldest entries goes is a parameter of the cache.
-/

import Switchboard.Table

namespace Switchboard

/-- A cached value with the time of its insertion and its lifetime. -/
structure CacheEntry (E : Type) where
  value : E
  insertedAt : Nat
  lifetime : Nat

/-- The age of an entry has reached its lifetime. -/
def CacheEntry.isExpired {E : Type} (now : Nat) (entry : CacheEntry E) : Bool :=
  entry.lifetime ≤ now - entry.insertedAt

/-- What happened to a cache so far. Evictions made room in a full cache, expirations removed what
had expired. -/
structure CacheStats where
  hits : Nat := 0
  misses : Nat := 0
  inserts : Nat := 0
  evictions : Nat := 0
  expirations : Nat := 0
  deriving DecidableEq, Repr

/-- Cached values under their keys. Nothing in a cache tells entries inserted at one time apart: `ties` says
which of the oldest goes, eviction by eviction. -/
structure Cache (E : Type) where
  entries : Table (CacheEntry E) := ∅
  lifetime : Nat
  maxEntries : Nat
  ties : Nat → Nat := fun _ => 0
  stats : CacheStats := {}

namespace Cache

variable {E : Type}

/-- An empty cache with room for at least one entry. -/
def new (lifetime maxEntries : Nat) (ties : Nat → Nat) : Cache E :=
  { lifetime, maxEntries := max maxEntries 1, ties }

/-- The entries that are alive. -/
def live (cache : Cache E) (now : Nat) : Table (CacheEntry E) :=
  cache.entries.filter fun _ entry => !entry.isExpired now

/-- The keys that are alive. -/
def keys (cache : Cache E) (now : Nat) : List String := (cache.live now).keys

/-- The number of entries that are alive. -/
def size (cache : Cache E) (now : Nat) : Nat := (cache.live now).size

/-- The value under a key if it is alive, and the cache after the read. -/
def get (cache : Cache E) (now : Nat) (key : String) : Option E × Cache E :=
  match cache.entries[key]? with
  | some entry =>
    if entry.isExpired now then
      (none, { cache with
        entries := cache.entries.erase key
        stats := { cache.stats with
          misses := cache.stats.misses + 1
          expirations := cache.stats.expirations + 1 } })
    else (some entry.value, { cache with stats := { cache.stats with hits := cache.stats.hits + 1 } })
  | none => (none, { cache with stats := { cache.stats with misses := cache.stats.misses + 1 } })

/-- Drops what has expired and counts it. -/
def dropExpired (cache : Cache E) (now : Nat) : Cache E :=
  let removed := cache.entries.size - (cache.live now).size
  { cache with
    entries := cache.live now
    stats := { cache.stats with expirations := cache.stats.expirations + removed } }

/-- The keys of the oldest entries, in order. -/
def oldestKeys (entries : Table (CacheEntry E)) : List String :=
  match (entries.toList.map fun held => held.2.insertedAt).min? with
  | some first => (entries.toList.filter fun held => held.2.insertedAt == first).map Prod.fst
  | none => []

/-- The key of one of the oldest entries. -/
def oldest? (cache : Cache E) : Option String :=
  let keys := oldestKeys cache.entries
  keys[cache.ties cache.stats.evictions % keys.length]?

/-- Drops one of the oldest entries and counts it. -/
def evictOldest (cache : Cache E) : Cache E :=
  match cache.oldest? with
  | some key => { cache with
      entries := cache.entries.erase key
      stats := { cache.stats with evictions := cache.stats.evictions + 1 } }
  | none => cache

/-- The cache with room for one more entry. -/
def makeRoom (cache : Cache E) (now : Nat) : Cache E :=
  let cleared := cache.dropExpired now
  Nat.repeat evictOldest (cleared.entries.size + 1 - cleared.maxEntries) cleared

/-- The cache with an entry, counted as an insertion. -/
def insert (cache : Cache E) (key : String) (entry : CacheEntry E) : Cache E :=
  { cache with
    entries := cache.entries.insert key entry
    stats := { cache.stats with inserts := cache.stats.inserts + 1 } }

/-- The cache with a value under a key, with a lifetime of its own or that of the cache. -/
def put (cache : Cache E) (now : Nat) (key : String) (value : E) (lifetime : Option Nat) : Cache E :=
  let entry : CacheEntry E := ⟨value, now, lifetime.getD cache.lifetime⟩
  if cache.entries.contains key || cache.entries.size < cache.maxEntries then cache.insert key entry
  else (cache.makeRoom now).insert key entry

/-- The cache without a key. -/
def evict (cache : Cache E) (key : String) : Cache E :=
  { cache with entries := cache.entries.erase key }

/-- The cache without entries. -/
def clear (cache : Cache E) : Cache E := { cache with entries := ∅ }

/-- The number of entries that have expired, and the cache without them. -/
def sweep (cache : Cache E) (now : Nat) : Nat × Cache E :=
  (cache.entries.size - (cache.live now).size, cache.dropExpired now)

end Cache

end Switchboard

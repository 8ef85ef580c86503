/-
**The entries of a cache.**

* `Cache.Within` — every entry of one cache is an entry of another. Reading, dropping and making room
  never add an entry (`Cache.within_get`, `Cache.within_clear`, `Cache.within_sweep`,
  `Cache.within_makeRoom`).
* `Cache.entry_of_put` — after a value is put under a key, every entry is the new one or an old one under
  another key.
* `Cache.get_eq_some` — a value that is read comes from an entry that is alive.
* `Cache.terms` — what a cache was made with; it never changes (`Cache.terms_get`, `Cache.terms_put`).
-/

import Switchboard.Cache
import Switchboard.Proofs.Outcome
import Switchboard.Proofs.Table

namespace Switchboard

theorem CacheEntry.isExpired_eq_false {E : Type} {now : Nat} {entry : CacheEntry E} :
    entry.isExpired now = false ↔ now - entry.insertedAt < entry.lifetime := by
  unfold CacheEntry.isExpired
  rw [decide_eq_false_iff_not, Nat.not_le]

namespace Cache

variable {E : Type} {cache : Cache E} {now : Nat} {key : String}

/-- Every entry of a cache is an entry of another. -/
def Within (small big : Cache E) : Prop :=
  ∀ (key : String) (entry : CacheEntry E),
    small.entries[key]? = some entry → big.entries[key]? = some entry

theorem Within.refl (cache : Cache E) : cache.Within cache := fun _ _ held => held

theorem Within.trans {small middle big : Cache E} (first : small.Within middle)
    (second : middle.Within big) : small.Within big :=
  fun key entry held => second key entry (first key entry held)

/-- An entry that is alive is an entry. -/
theorem held_of_live {entry : CacheEntry E} (alive : (cache.live now)[key]? = some entry) :
    cache.entries[key]? = some entry := by
  unfold live at alive
  rw [Std.ExtTreeMap.getElem?_filter', Option.filter_eq_some_iff] at alive
  exact alive.1

/-! ### Entries that go -/

theorem entry_of_evict {other : String} {entry : CacheEntry E}
    (held : (cache.evict key).entries[other]? = some entry) :
    key ≠ other ∧ cache.entries[other]? = some entry := by
  unfold evict at held
  rw [Table.getElem?_erase_eq] at held
  split at held
  · cases held
  next differs => exact ⟨differs, held⟩

theorem within_erase (change : CacheStats) (key : String) :
    { cache with entries := cache.entries.erase key, stats := change }.Within cache :=
  fun _ _ held => (entry_of_evict held).2

theorem not_held_clear {other : String} {entry : CacheEntry E} :
    cache.clear.entries[other]? ≠ some entry := by
  intro held
  unfold clear at held
  rw [Std.ExtTreeMap.getElem?_empty] at held
  cases held

theorem within_clear (cache : Cache E) : cache.clear.Within cache :=
  fun _ _ held => absurd held not_held_clear

theorem within_dropExpired (cache : Cache E) (now : Nat) : (cache.dropExpired now).Within cache := by
  intro other entry held
  unfold dropExpired live at held
  rw [Std.ExtTreeMap.getElem?_filter', Option.filter_eq_some_iff] at held
  exact held.1

theorem within_sweep (cache : Cache E) (now : Nat) : (cache.sweep now).2.Within cache :=
  within_dropExpired cache now

theorem within_evictOldest (cache : Cache E) : cache.evictOldest.Within cache := by
  unfold evictOldest
  split
  · exact within_erase _ _
  · exact Within.refl cache

/-- **What holds without the entries that have expired and is kept when the oldest entry goes**, holds once
there is room. -/
theorem makeRoom_keeps (kept : Cache E → Prop) (dropped : kept (cache.dropExpired now))
    (evicts : ∀ start : Cache E, kept start → kept start.evictOldest) : kept (cache.makeRoom now) :=
  repeat_keeps kept evicts dropped _

theorem within_makeRoom (cache : Cache E) (now : Nat) : (cache.makeRoom now).Within cache :=
  makeRoom_keeps (fun room => room.Within cache) (within_dropExpired cache now) fun start within =>
    (within_evictOldest start).trans within

/-! ### Entries that are read -/

theorem within_get (cache : Cache E) (now : Nat) (key : String) :
    (cache.get now key).2.Within cache := by
  unfold get
  split
  · split
    · exact within_erase _ _
    · exact fun _ _ held => held
  · exact fun _ _ held => held

/-- **A value that is read comes from an entry that is alive.** -/
theorem get_eq_some {value : E} (read : (cache.get now key).1 = some value) :
    ∃ entry, cache.entries[key]? = some entry ∧ now - entry.insertedAt < entry.lifetime ∧
      entry.value = value := by
  unfold get at read
  split at read
  next entry held =>
    split at read
    · cases read
    next alive =>
      cases read
      exact ⟨entry, held, CacheEntry.isExpired_eq_false.mp (Bool.not_eq_true _ ▸ alive), rfl⟩
  · cases read

/-! ### Entries that come -/

/-- **An entry after a value is put** is the new one, or an old one under another key. -/
theorem entry_of_put {value : E} {other : String} {entry : CacheEntry E}
    (held : (cache.put now key value none).entries[other]? = some entry) :
    (key = other ∧ entry = ⟨value, now, cache.lifetime⟩) ∨
      (key ≠ other ∧ cache.entries[other]? = some entry) := by
  have inserted : ∀ room : Cache E, room.Within cache →
      (room.insert key ⟨value, now, cache.lifetime⟩).entries[other]? = some entry →
      (key = other ∧ entry = ⟨value, now, cache.lifetime⟩) ∨
        (key ≠ other ∧ cache.entries[other]? = some entry) := by
    intro room within held
    unfold insert at held
    rw [Table.getElem?_insert_eq] at held
    split at held
    next same =>
      cases held
      exact .inl ⟨same, rfl⟩
    next differs => exact .inr ⟨differs, within other entry held⟩
  unfold put at held
  dsimp only [Option.getD_none] at held
  split at held
  · exact inserted cache (Within.refl cache) held
  · exact inserted _ (within_makeRoom cache now) held

/-! ### What a cache was made with -/

/-- What a cache was made with: its lifetime, its bound and its choices among the oldest entries. -/
def terms (cache : Cache E) : Nat × Nat × (Nat → Nat) := (cache.lifetime, cache.maxEntries, cache.ties)

theorem terms_get (cache : Cache E) (now : Nat) (key : String) :
    (cache.get now key).2.terms = cache.terms := by
  unfold get
  split
  · split <;> rfl
  · rfl

theorem terms_evictOldest (cache : Cache E) : cache.evictOldest.terms = cache.terms := by
  unfold evictOldest
  split <;> rfl

theorem terms_makeRoom (cache : Cache E) (now : Nat) : (cache.makeRoom now).terms = cache.terms :=
  makeRoom_keeps (fun room => room.terms = cache.terms) rfl fun start same =>
    (terms_evictOldest start).trans same

theorem terms_put (cache : Cache E) (now : Nat) (key : String) (value : E) (lifetime : Option Nat) :
    (cache.put now key value lifetime).terms = cache.terms := by
  unfold put
  split
  · rfl
  · exact terms_makeRoom cache now

@[simp]
theorem lifetime_get (cache : Cache E) (now : Nat) (key : String) :
    (cache.get now key).2.lifetime = cache.lifetime :=
  congrArg Prod.fst (terms_get cache now key)

@[simp]
theorem lifetime_evict (cache : Cache E) (key : String) :
    (cache.evict key).lifetime = cache.lifetime := rfl

@[simp]
theorem lifetime_clear (cache : Cache E) : cache.clear.lifetime = cache.lifetime := rfl

@[simp]
theorem lifetime_sweep (cache : Cache E) (now : Nat) :
    (cache.sweep now).2.lifetime = cache.lifetime := rfl

@[simp]
theorem lifetime_put (cache : Cache E) (now : Nat) (key : String) (value : E)
    (lifetime : Option Nat) : (cache.put now key value lifetime).lifetime = cache.lifetime :=
  congrArg Prod.fst (terms_put cache now key value lifetime)

theorem maxEntries_get (cache : Cache E) (now : Nat) (key : String) :
    (cache.get now key).2.maxEntries = cache.maxEntries :=
  congrArg (fun terms => terms.2.1) (terms_get cache now key)

theorem maxEntries_makeRoom (cache : Cache E) (now : Nat) :
    (cache.makeRoom now).maxEntries = cache.maxEntries :=
  congrArg (fun terms => terms.2.1) (terms_makeRoom cache now)

theorem maxEntries_put (cache : Cache E) (now : Nat) (key : String) (value : E) (lifetime : Option Nat) :
    (cache.put now key value lifetime).maxEntries = cache.maxEntries :=
  congrArg (fun terms => terms.2.1) (terms_put cache now key value lifetime)

end Cache

end Switchboard

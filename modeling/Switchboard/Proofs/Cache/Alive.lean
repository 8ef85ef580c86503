/-
**Entries that are alive, and the oldest of them.**

* `Table.alive` — the entries of a table that are alive. What has expired stays so (`Table.alive_alive`),
  and what is alive after an entry comes or goes can be told from what was alive before
  (`Table.alive_insert`, `Table.alive_erase`).
* `Table.Oldest` — an entry that was inserted no later than any other. The entry that a cache drops to
  make room is one (`Cache.oldest_of_oldest?`).
-/

import Switchboard.Proofs.Cache.Entries

namespace Switchboard

/-- What has expired stays expired. -/
theorem CacheEntry.isExpired_of_le {E : Type} {now later : Nat} {entry : CacheEntry E}
    (order : now ≤ later) (expired : entry.isExpired now = true) : entry.isExpired later = true := by
  unfold CacheEntry.isExpired at expired ⊢
  rw [decide_eq_true_eq] at expired ⊢
  omega

namespace Table

variable {E : Type} {now : Nat} {entries : Table (CacheEntry E)} {key : String}

/-- The entries of a table that are alive. -/
def alive (now : Nat) (entries : Table (CacheEntry E)) : Table (CacheEntry E) :=
  entries.filter fun _ entry => !entry.isExpired now

/-- An entry under a key was inserted no later than any other. -/
def Oldest (entries : Table (CacheEntry E)) (key : String) : Prop :=
  ∃ entry, entries[key]? = some entry ∧
    ∀ (other : String) (younger : CacheEntry E), entries[other]? = some younger →
      entry.insertedAt ≤ younger.insertedAt

/-! ### Looking up what is alive -/

theorem getElem?_alive (now : Nat) (entries : Table (CacheEntry E)) (key : String) :
    (alive now entries)[key]? = entries[key]?.filter fun entry => !entry.isExpired now :=
  Std.ExtTreeMap.getElem?_filter'

theorem alive_empty (now : Nat) : alive now (∅ : Table (CacheEntry E)) = ∅ := by
  refine Std.ExtTreeMap.ext_getElem? fun key => ?_
  rw [getElem?_alive, Std.ExtTreeMap.getElem?_empty]
  rfl

/-- **What has expired is never alive again.** -/
theorem alive_alive {later : Nat} (order : now ≤ later) (entries : Table (CacheEntry E)) :
    alive later (alive now entries) = alive later entries := by
  refine Std.ExtTreeMap.ext_getElem? fun key => ?_
  rw [getElem?_alive, getElem?_alive, getElem?_alive]
  cases held : entries[key]? with
  | none => rfl
  | some entry =>
    cases before : entry.isExpired now with
    | true =>
      have after := CacheEntry.isExpired_of_le order before
      simp [Option.filter, before, after]
    | false => simp [Option.filter, before]

theorem alive_insert (now : Nat) (entries : Table (CacheEntry E)) (key : String)
    (entry : CacheEntry E) :
    alive now ((alive now entries).insert key entry) = alive now (entries.insert key entry) := by
  refine Std.ExtTreeMap.ext_getElem? fun other => ?_
  rw [getElem?_alive, getElem?_alive, getElem?_insert_eq, getElem?_insert_eq]
  split
  · rfl
  · rw [← getElem?_alive, ← getElem?_alive, alive_alive (Nat.le_refl now)]

theorem alive_erase (now : Nat) (entries : Table (CacheEntry E)) (key : String) :
    alive now (entries.erase key) = (alive now entries).erase key := by
  refine Std.ExtTreeMap.ext_getElem? fun other => ?_
  rw [getElem?_alive, getElem?_erase_eq, getElem?_erase_eq, getElem?_alive]
  split <;> rfl

/-- An entry that is not alive can be dropped. -/
theorem erase_of_not_mem {α : Type} {table : Table α} {key : String} (missing : key ∉ table) :
    table.erase key = table := by
  refine Std.ExtTreeMap.ext_getElem? fun other => ?_
  rw [getElem?_erase_eq]
  split
  next same =>
    subst same
    exact (Std.ExtTreeMap.getElem?_eq_none missing).symm
  · rfl

theorem mem_of_mem_alive (held : key ∈ alive now entries) : key ∈ entries :=
  Std.ExtTreeMap.mem_of_mem_filter held

/-! ### Counting what is alive -/

theorem size_alive_le (now : Nat) (entries : Table (CacheEntry E)) :
    (alive now entries).size ≤ entries.size :=
  Std.ExtTreeMap.size_filter_le_size

/-- A table that holds an entry that has expired holds more than what is alive. -/
theorem size_alive_lt (held : key ∈ entries) (dead : key ∉ alive now entries) :
    (alive now entries).size < entries.size := by
  have dropped : alive now (entries.erase key) = alive now entries := by
    rw [alive_erase, erase_of_not_mem dead]
  have positive : entries.size ≠ 0 := by
    intro none
    rw [← Std.ExtTreeMap.eq_empty_iff_size_eq_zero] at none
    rw [none] at held
    exact Std.ExtTreeMap.not_mem_empty held
  have fewer : (entries.erase key).size = entries.size - 1 := by
    rw [Std.ExtTreeMap.size_erase, if_pos (Std.ExtTreeMap.mem_iff_contains.mp held)]
  have bound := size_alive_le now (entries.erase key)
  rw [dropped, fewer] at bound
  omega

end Table

namespace Cache

variable {E : Type} {cache : Cache E} {key : String}

/-! ### The oldest entry -/

/-- The keys among which a cache chooses are those of the oldest entries. -/
theorem mem_oldestKeys {entries : Table (CacheEntry E)} :
    key ∈ oldestKeys entries ↔ Table.Oldest entries key := by
  have times : ∀ time, time ∈ entries.toList.map (fun held => held.2.insertedAt) ↔
      ∃ (key : String) (entry : CacheEntry E), entries[key]? = some entry ∧ entry.insertedAt = time := by
    intro time
    simp only [List.mem_map, Prod.exists, Std.ExtTreeMap.mem_toList_iff_getElem?_eq_some]
  unfold oldestKeys
  split
  next first least =>
    obtain ⟨_, before⟩ := List.min?_eq_some_iff.mp least
    simp only [List.mem_map, List.mem_filter, Prod.exists, beq_iff_eq, exists_and_right, exists_eq_right,
      Std.ExtTreeMap.mem_toList_iff_getElem?_eq_some]
    constructor
    · rintro ⟨entry, held, rfl⟩
      exact ⟨entry, held, fun other younger kept => before _ ((times _).mpr ⟨other, younger, kept, rfl⟩)⟩
    · rintro ⟨entry, held, oldest⟩
      obtain ⟨other, younger, kept, rfl⟩ := (times first).mp (List.min?_eq_some_iff.mp least).1
      exact ⟨entry, held, Nat.le_antisymm (oldest other younger kept)
        (before _ ((times _).mpr ⟨key, entry, held, rfl⟩))⟩
  next none =>
    rw [List.min?_eq_none_iff] at none
    constructor
    · rintro ⟨⟩
    rintro ⟨entry, held, _⟩
    have listed := (times entry.insertedAt).mpr ⟨key, entry, held, rfl⟩
    rw [none] at listed
    cases listed

theorem oldest_of_oldest? (chosen : cache.oldest? = some key) : Table.Oldest cache.entries key :=
  mem_oldestKeys.mp (List.mem_of_getElem? chosen)

/-- There is an oldest entry as soon as there is any. -/
theorem oldestKeys_ne_nil {entries : Table (CacheEntry E)} (nonempty : entries ≠ ∅) :
    oldestKeys entries ≠ [] := by
  have listed : entries.toList.map (fun held => held.2.insertedAt) ≠ [] := by
    intro none
    refine nonempty (Std.ExtTreeMap.isEmpty_iff.mp ?_)
    rw [← Std.ExtTreeMap.isEmpty_toList, List.map_eq_nil_iff.mp none]
    rfl
  obtain ⟨first, least⟩ := Option.ne_none_iff_exists'.mp (mt List.min?_eq_none_iff.mp listed)
  obtain ⟨held, member, rfl⟩ := List.mem_map.mp (List.min?_mem least)
  have oldest : held.1 ∈ oldestKeys entries := by
    unfold oldestKeys
    rw [least]
    exact List.mem_map_of_mem (List.mem_filter.mpr ⟨member, beq_self_eq_true _⟩)
  exact List.ne_nil_of_mem oldest

theorem oldest?_isSome (nonempty : cache.entries ≠ ∅) : ∃ key, cache.oldest? = some key := by
  have some_key := List.length_pos_iff.mpr (oldestKeys_ne_nil nonempty)
  exact ⟨_, List.getElem?_eq_getElem (Nat.mod_lt _ some_key)⟩

end Cache

end Switchboard

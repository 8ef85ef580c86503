/-
**Every entry of a cache is accounted for.**

An entry that comes to a cache is in it until it leaves it, and it leaves it once: it expired, it was displaced by
another one while it was alive, it was replaced under its key, or it was removed.

* `CacheStep`, `SweptCache.trail` — a call with the cache before and after it, and the steps of a run.
* `CacheStep.arrived`, `CacheStep.departed` — the entry that a step brings, and the entries that leave with it. They
  are told from the cache before and after, not from what the cache does.
* `Cache.Sheds` — nothing leaves but what has expired, and it is counted: so do reads, sweeps and time passing.
* `CacheStep.Balanced` — what a step adds to the counters is what came and went with it: so does every call
  (`SweptCache.balanced_step`).
* `Cache.Books` — the counters, what came and what went between two caches, kept by every run
  (`SweptCache.books_trail`).
* `SweptCache.entries_are_conserved` — the balance of a cache.
-/

import Mathlib.Algebra.GroupWithZero.Nat
import Mathlib.Data.List.Nodup
import Switchboard.Proofs.Cache.Refinement
import Switchboard.Proofs.Schedule.Timeline

namespace Switchboard

variable {E : Type}

/-! ### Steps -/

/-- How an entry leaves a cache. -/
inductive Parting where
  | expired
  | displaced
  | replaced
  | removed
  deriving DecidableEq

/-- An entry that left a cache: its key, when it left, and how. -/
structure Departure (E : Type) where
  key : String
  entry : CacheEntry E
  time : Nat
  parting : Parting

/-- The entry that left, with its key. -/
def Departure.item (departure : Departure E) : String × CacheEntry E := (departure.key, departure.entry)

/-- A call, the time after it, and the cache before and after. -/
structure CacheStep (E : Type) where
  call : CacheCall E
  clock : Nat
  before : Cache E
  after : Cache E

namespace CacheStep

/-- The entry that a step brings. -/
def arrived (step : CacheStep E) : List (String × CacheEntry E) :=
  match step.call with
  | .put key value lifetime => [(key, ⟨value, step.clock, lifetime.getD step.before.lifetime⟩)]
  | _ => []

/-- The entries after a step that the step did not bring. -/
def stayed (step : CacheStep E) : Table (CacheEntry E) :=
  match step.call with
  | .put key _ _ => step.after.entries.erase key
  | _ => step.after.entries

/-- How an entry parts from a cache that leaves it with a step: an entry under the key that is put is replaced, a
caller removes entries by name or altogether, and of the others those expired that were dead. -/
def parting (step : CacheStep E) (key : String) (entry : CacheEntry E) : Parting :=
  let fate : Parting := if entry.isExpired step.clock then .expired else .displaced
  match step.call with
  | .put other _ _ => if key = other then .replaced else fate
  | .evict _ | .clear => .removed
  | _ => fate

/-- The entries that leave with a step. -/
def departed (step : CacheStep E) : List (Departure E) :=
  (step.before.entries.toList.filter fun item => !step.stayed.contains item.1).map fun item =>
    ⟨item.1, item.2, step.clock, step.parting item.1 item.2⟩

/-- The number of entries that a step overwrites. -/
def overwritten (step : CacheStep E) : Nat :=
  match step.call with
  | .put key _ _ => if step.before.entries.contains key then 1 else 0
  | _ => 0

/-- The number of entries that a caller takes away with a step. -/
def takenAway (step : CacheStep E) : Nat :=
  match step.call with
  | .evict key => if step.before.entries.contains key then 1 else 0
  | .clear => step.before.entries.size
  | _ => 0

end CacheStep

/-- A call looks a key up. -/
def CacheCall.isGet : CacheCall E → Bool
  | get _ => true
  | _ => false

/-- A call puts a value. -/
def CacheCall.isPut : CacheCall E → Bool
  | put _ _ _ => true
  | _ => false

/-- The steps of a run. -/
def SweptCache.trail (wall : Nat → Time.Instant) (now : Nat) (swept : SweptCache E) :
    List (CacheCall E) → List (CacheStep E)
  | [] => []
  | call :: rest =>
    let (clock, _, after) := swept.step wall now call
    ⟨call, clock, swept.cache, after.cache⟩ :: after.trail wall clock rest

/-! ### Tables of which one is within the other -/

namespace Table

variable {α : Type} {small big table : Table α} {key : String}

theorem nodup_toList (table : Table α) : table.toList.Nodup :=
  Std.ExtTreeMap.distinct_keys_toList.imp fun differ same =>
    differ (Std.compare_eq_iff_eq.mpr (congrArg Prod.fst same))

theorem mem_toList_iff {item : String × α} : item ∈ table.toList ↔ table[item.1]? = some item.2 :=
  Std.ExtTreeMap.mem_toList_iff_getElem?_eq_some

/-- The entries of a table are those of a table within it, and the others. -/
theorem perm_toList_of_within
    (within : ∀ (key : String) value, small[key]? = some value → big[key]? = some value) :
    big.toList.Perm (small.toList ++ big.toList.filter fun item => !small.contains item.1) := by
  have apart : (small.toList ++ big.toList.filter fun item => !small.contains item.1).Nodup := by
    refine List.nodup_append.mpr ⟨nodup_toList small, (nodup_toList big).filter _, ?_⟩
    rintro item held _ gone rfl
    have absent := (List.mem_filter.mp gone).2
    rw [Std.ExtTreeMap.contains_eq_isSome_getElem?, mem_toList_iff.mp held] at absent
    cases absent
  refine (List.perm_ext_iff_of_nodup (nodup_toList big) apart).mpr fun item => ?_
  rw [List.mem_append, List.mem_filter, mem_toList_iff, mem_toList_iff]
  constructor
  · intro held
    cases found : small[item.1]? with
    | none =>
      refine .inr ⟨held, ?_⟩
      rw [Std.ExtTreeMap.contains_eq_isSome_getElem?, found]
      rfl
    | some value => exact .inl ((within _ _ found).symm.trans held)
  · rintro (held | ⟨held, _⟩)
    · exact within _ _ held
    · exact held

/-- The entries of a table with a value under a key are this one and those under other keys. -/
theorem perm_toList_insert (table : Table α) (key : String) (value : α) :
    (table.insert key value).toList.Perm ((key, value) :: (table.erase key).toList) := by
  have apart : ((key, value) :: (table.erase key).toList).Nodup := by
    refine List.nodup_cons.mpr ⟨fun held => ?_, nodup_toList _⟩
    rw [mem_toList_iff, getElem?_erase_eq, if_pos rfl] at held
    cases held
  refine (List.perm_ext_iff_of_nodup (nodup_toList _) apart).mpr fun item => ?_
  rw [List.mem_cons, mem_toList_iff, mem_toList_iff, getElem?_insert_eq, getElem?_erase_eq]
  by_cases same : key = item.1
  · rw [if_pos same, if_pos same, Prod.ext_iff, Option.some.injEq, ← same]
    simp [eq_comm]
  · rw [if_neg same, if_neg same]
    exact (or_iff_right fun equal => same (congrArg Prod.fst equal).symm).symm

theorem erase_insert (table : Table α) (key : String) (value : α) :
    (table.insert key value).erase key = table.erase key := by
  refine Std.ExtTreeMap.ext_getElem? fun other => ?_
  rw [getElem?_erase_eq, getElem?_erase_eq, getElem?_insert_eq]
  split <;> rfl

/-- The number of entries under other keys, and of those under a key. -/
theorem size_erase_add (table : Table α) (key : String) :
    (table.erase key).size + (if table.contains key then 1 else 0) = table.size := by
  rw [Std.ExtTreeMap.size_erase]
  by_cases held : table.contains key = true
  · have positive : table.size ≠ 0 := fun none => by
      rw [Std.ExtTreeMap.eq_empty_iff_size_eq_zero.mpr none, ← Std.ExtTreeMap.mem_iff_contains] at held
      exact Std.ExtTreeMap.not_mem_empty held
    rw [if_pos held, if_pos held]
    omega
  · rw [if_neg held, if_neg held]
    rfl

end Table

/-- The entries of a table that are alive, and those that have expired. -/
theorem Table.size_alive_add (now : Nat) (entries : Table (CacheEntry E)) :
    (Table.alive now entries).size + entries.toList.countP (fun item => item.2.isExpired now) = entries.size := by
  have listed : (Table.alive now entries).toList.Perm
      (entries.toList.filter fun item => !item.2.isExpired now) := by
    refine (List.perm_ext_iff_of_nodup (nodup_toList _) ((nodup_toList entries).filter _)).mpr fun item => ?_
    rw [List.mem_filter, mem_toList_iff, mem_toList_iff, getElem?_alive, Option.filter_eq_some_iff]
  have count := List.length_eq_countP_add_countP (fun item : String × CacheEntry E => item.2.isExpired now)
    (l := entries.toList)
  have same := listed.length_eq
  rw [← List.countP_eq_length_filter, Std.ExtTreeMap.length_toList] at same
  rw [Std.ExtTreeMap.length_toList] at count
  simp only [Bool.not_eq_true, Bool.decide_eq_false] at count
  omega

/-! ### What leaves -/

namespace CacheStep

variable {step : CacheStep E}

/-- What was there before a step has stayed or departed. -/
theorem perm_departed
    (within : ∀ (key : String) entry, step.stayed[key]? = some entry → step.before.entries[key]? = some entry) :
    step.before.entries.toList.Perm (step.stayed.toList ++ step.departed.map Departure.item) := by
  have items : step.departed.map Departure.item =
      step.before.entries.toList.filter fun item => !step.stayed.contains item.1 := by
    unfold departed
    rw [List.map_map]
    exact List.map_id _
  rw [items]
  exact Table.perm_toList_of_within within

theorem length_departed
    (within : ∀ (key : String) entry, step.stayed[key]? = some entry → step.before.entries[key]? = some entry) :
    step.stayed.size + step.departed.length = step.before.entries.size := by
  have counted := (perm_departed within).length_eq
  rw [List.length_append, List.length_map, Std.ExtTreeMap.length_toList, Std.ExtTreeMap.length_toList] at counted
  exact counted.symm

/-- An entry that departs was there before, and has not stayed. -/
theorem of_departed {departure : Departure E} (listed : departure ∈ step.departed) :
    step.before.entries[departure.key]? = some departure.entry ∧ departure.key ∉ step.stayed ∧
      departure.time = step.clock ∧ departure.parting = step.parting departure.key departure.entry := by
  obtain ⟨item, gone, rfl⟩ := List.mem_map.mp listed
  rw [List.mem_filter, Table.mem_toList_iff, Bool.not_eq_true', ← Bool.not_eq_true,
    ← Std.ExtTreeMap.mem_iff_contains] at gone
  exact ⟨gone.1, gone.2, rfl, rfl⟩

/-- What expires is dead, and what is displaced is alive. -/
theorem isExpired_of_parting {key : String} {entry : CacheEntry E} :
    (step.parting key entry = .expired → entry.isExpired step.clock = true) ∧
      (step.parting key entry = .displaced → entry.isExpired step.clock = false) := by
  unfold parting
  cases entry.isExpired step.clock <;> grind

/-- The number of entries that part in a way, if all part in one. -/
theorem count_of_same {way : Parting} (same : ∀ departure ∈ step.departed, departure.parting = way)
    (parting : Parting) :
    (step.departed.map Departure.parting).count parting = if way = parting then step.departed.length else 0 := by
  have alike : step.departed.map Departure.parting = List.replicate step.departed.length way :=
    List.eq_replicate_iff.mpr ⟨List.length_map _, List.forall_mem_map.mpr same⟩
  rw [alike, List.count_replicate]
  simp only [beq_iff_eq]

end CacheStep

namespace Cache

variable {cache first second third : Cache E} {now clock target looked : Nat} {key : String}

/-! ### What has expired goes -/

/-- Nothing leaves a cache but what has expired by a time, and it is counted as that; nothing comes. Keys were
looked up so many times. -/
structure Sheds (clock looked : Nat) (before after : Cache E) : Prop where
  within : after.Within before
  dead : ∀ (key : String) entry, before.entries[key]? = some entry → key ∉ after.entries →
    entry.isExpired clock = true
  expirations : after.stats.expirations + after.entries.size = before.stats.expirations + before.entries.size
  evictions : after.stats.evictions = before.stats.evictions
  inserts : after.stats.inserts = before.stats.inserts
  lookups : after.stats.hits + after.stats.misses = before.stats.hits + before.stats.misses + looked

/-- A cache sheds nothing where its entries stay as they are. -/
theorem Sheds.of_entries {before after : Cache E} (entries : after.entries = before.entries)
    (expirations : after.stats.expirations = before.stats.expirations)
    (evictions : after.stats.evictions = before.stats.evictions)
    (inserts : after.stats.inserts = before.stats.inserts)
    (lookups : after.stats.hits + after.stats.misses = before.stats.hits + before.stats.misses + looked) :
    Sheds clock looked before after where
  within key entry held := by rwa [entries] at held
  dead key entry held gone := by
    rw [entries, Std.ExtTreeMap.mem_iff_isSome_getElem?, held] at gone
    exact absurd rfl gone
  expirations := by rw [entries, expirations]
  evictions := evictions
  inserts := inserts
  lookups := lookups

theorem Sheds.refl (cache : Cache E) : Sheds clock 0 cache cache := .of_entries rfl rfl rfl rfl rfl

theorem Sheds.trans (early : Sheds clock 0 first second) (order : clock ≤ target)
    (late : Sheds target looked second third) : Sheds target looked first third where
  within := late.within.trans early.within
  dead key entry held gone := by
    by_cases kept : key ∈ second.entries
    · obtain ⟨other, found⟩ := Option.isSome_iff_exists.mp (Std.ExtTreeMap.mem_iff_isSome_getElem?.mp kept)
      cases held.symm.trans (early.within key other found)
      exact late.dead key entry found gone
    · exact CacheEntry.isExpired_of_le order (early.dead key entry held kept)
  expirations := late.expirations.trans early.expirations
  evictions := late.evictions.trans early.evictions
  inserts := late.inserts.trans early.inserts
  lookups := late.lookups.trans (congrArg (· + looked) early.lookups)

theorem sheds_sweep (cache : Cache E) (now : Nat) : Sheds now 0 cache (cache.sweep now).2 where
  within := within_sweep cache now
  dead key entry held gone := by
    by_contra alive
    have live : (Table.alive now cache.entries)[key]? = some entry := by
      rw [Table.getElem?_alive, held]
      simp [Option.filter, alive]
    exact gone (Std.ExtTreeMap.mem_iff_isSome_getElem?.mpr (Option.isSome_of_eq_some live))
  expirations := by
    have fewer : (cache.live now).size ≤ cache.entries.size := Table.size_alive_le now cache.entries
    show cache.stats.expirations + (cache.entries.size - (cache.live now).size) + (cache.live now).size = _
    omega
  evictions := rfl
  inserts := rfl
  lookups := rfl

theorem sheds_get (cache : Cache E) (now : Nat) (key : String) : Sheds now 1 cache (cache.get now key).2 := by
  unfold get
  split
  next entry held =>
    split
    next expired =>
      have listed : cache.entries.contains key = true := by
        rw [Std.ExtTreeMap.contains_eq_isSome_getElem?, held]
        rfl
      have fewer := Table.size_erase_add cache.entries key
      rw [if_pos listed] at fewer
      refine ⟨within_erase _ key, fun other entry found gone => ?_, ?_, rfl, rfl, rfl⟩
      · by_cases same : key = other
        · subst same
          cases held.symm.trans found
          exact expired
        · refine absurd ?_ gone
          rw [Std.ExtTreeMap.mem_iff_isSome_getElem?, Table.getElem?_erase_eq, if_neg same, found]
          rfl
      · show cache.stats.expirations + 1 + (cache.entries.erase key).size = _
        omega
    · exact .of_entries rfl rfl rfl rfl (Nat.add_right_comm _ _ _)
  · exact .of_entries rfl rfl rfl rfl rfl

/-! ### What makes room goes -/

/-- An entry that is displaced is counted. -/
theorem displaced_evictOldest (cache : Cache E) :
    cache.evictOldest.stats.evictions + cache.evictOldest.entries.size =
      cache.stats.evictions + cache.entries.size := by
  unfold evictOldest
  split
  next key chosen =>
    obtain ⟨entry, held, _⟩ := oldest_of_oldest? chosen
    have listed : cache.entries.contains key = true := by
      rw [Std.ExtTreeMap.contains_eq_isSome_getElem?, held]
      rfl
    have fewer := Table.size_erase_add cache.entries key
    rw [if_pos listed] at fewer
    show cache.stats.evictions + 1 + (cache.entries.erase key).size = _
    omega
  · rfl

theorem expirations_evictOldest (cache : Cache E) :
    cache.evictOldest.stats.expirations = cache.stats.expirations := by
  unfold evictOldest
  split <;> rfl

theorem lookups_evictOldest (cache : Cache E) :
    cache.evictOldest.stats.hits = cache.stats.hits ∧ cache.evictOldest.stats.misses = cache.stats.misses ∧
      cache.evictOldest.stats.inserts = cache.stats.inserts := by
  unfold evictOldest
  split <;> exact ⟨rfl, rfl, rfl⟩

/-- What making room does to the entries and to the counters: first what has expired goes, then entries that are
alive are displaced. -/
structure Cleared (now : Nat) (before room : Cache E) : Prop where
  within : room.Within (before.sweep now).2
  expirations : room.stats.expirations = (before.sweep now).2.stats.expirations
  evictions : room.stats.evictions + room.entries.size = before.stats.evictions + (before.live now).size
  inserts : room.stats.inserts = before.stats.inserts
  hits : room.stats.hits = before.stats.hits
  misses : room.stats.misses = before.stats.misses

theorem cleared_makeRoom (cache : Cache E) (now : Nat) : Cleared now cache (cache.makeRoom now) := by
  refine makeRoom_keeps (Cleared now cache) ⟨Within.refl _, rfl, rfl, rfl, rfl, rfl⟩ fun room cleared => ?_
  obtain ⟨hits, misses, inserts⟩ := lookups_evictOldest room
  exact
    { within := (within_evictOldest room).trans cleared.within
      expirations := (expirations_evictOldest room).trans cleared.expirations
      evictions := (displaced_evictOldest room).trans cleared.evictions
      inserts := inserts.trans cleared.inserts
      hits := hits.trans cleared.hits
      misses := misses.trans cleared.misses }

end Cache

/-! ### Books of a step -/

/-- Every entry parts in one way. -/
theorem Parting.length_eq (partings : List Parting) : partings.length =
    partings.count .expired + partings.count .displaced + partings.count .replaced + partings.count .removed := by
  induction partings with
  | nil => rfl
  | cons first rest ih =>
    simp only [List.length_cons, List.count_cons, ih]
    cases first <;> simp <;> omega

namespace CacheStep

variable {step : CacheStep E}

/-- The counters after a step are those before it and what happened in it, every way of parting by itself; and the
entries before it, with the one that came, are those after it, with those that left. -/
structure Balanced (step : CacheStep E) : Prop where
  lookups : step.after.stats.hits + step.after.stats.misses =
    step.before.stats.hits + step.before.stats.misses + if step.call.isGet then 1 else 0
  inserts : step.after.stats.inserts = step.before.stats.inserts + if step.call.isPut then 1 else 0
  arrivals : step.arrived.length = if step.call.isPut then 1 else 0
  expirations : step.after.stats.expirations =
    step.before.stats.expirations + (step.departed.map Departure.parting).count .expired
  evictions : step.after.stats.evictions =
    step.before.stats.evictions + (step.departed.map Departure.parting).count .displaced
  replaced : (step.departed.map Departure.parting).count .replaced = step.overwritten
  removed : (step.departed.map Departure.parting).count .removed = step.takenAway
  entries : (step.before.entries.toList ++ step.arrived).Perm
    (step.after.entries.toList ++ step.departed.map Departure.item)

/-- A call leaves it to time what leaves the cache, and brings nothing. -/
def IsPassive (step : CacheStep E) : Prop :=
  match step.call with
  | .put _ _ _ | .evict _ | .clear => False
  | .get _ | .sweep | .startSweeping | .stopSweeping | .advance _ => True

/-- **A step balances in which nothing leaves but what has expired.** -/
theorem balanced_of_sheds (passive : step.IsPassive)
    (sheds : Cache.Sheds step.clock (if step.call.isGet then 1 else 0) step.before step.after) :
    step.Balanced := by
  obtain ⟨stayed, arrived, unwritten, untaken, fate, unput⟩ : step.stayed = step.after.entries ∧ step.arrived = [] ∧
      step.overwritten = 0 ∧ step.takenAway = 0 ∧
      (∀ key entry, entry.isExpired step.clock = true → step.parting key entry = .expired) ∧
      step.call.isPut = false := by
    rcases step with ⟨call, clock, before, after⟩
    cases call with
    | put | evict | clear => exact passive.elim
    | get | sweep | startSweeping | stopSweeping | advance =>
      exact ⟨rfl, rfl, rfl, rfl, fun _ _ expired => if_pos expired, rfl⟩
  have within : ∀ (key : String) entry, step.stayed[key]? = some entry →
      step.before.entries[key]? = some entry := stayed ▸ sheds.within
  have length := length_departed within
  have same : ∀ departure ∈ step.departed, departure.parting = .expired := by
    intro departure listed
    obtain ⟨held, gone, _, parts⟩ := of_departed listed
    rw [stayed] at gone
    exact parts.trans (fate _ _ (sheds.dead _ _ held gone))
  have counts := count_of_same same
  have expirations := sheds.expirations
  refine ⟨sheds.lookups, ?_, ?_, ?_, ?_, ?_, ?_, ?_⟩
  · rw [sheds.inserts, unput]
    rfl
  · rw [arrived, unput]
    rfl
  · rw [counts, if_pos rfl]
    rw [stayed] at length
    omega
  · rw [sheds.evictions, counts]
    rfl
  · rw [counts, unwritten]
    rfl
  · rw [counts, untaken]
    rfl
  · rw [arrived, List.append_nil, ← stayed]
    exact perm_departed within

/-- **A step balances in which a caller removes entries.** -/
theorem balanced_of_removal (within : step.after.Within step.before) (stats : step.after.stats = step.before.stats)
    (removes : (∃ key, step.call = .evict key) ∨ step.call = .clear)
    (fewer : step.after.entries.size + step.takenAway = step.before.entries.size) : step.Balanced := by
  obtain ⟨stayed, arrived, unwritten, parting, unput, unread⟩ : step.stayed = step.after.entries ∧
      step.arrived = [] ∧ step.overwritten = 0 ∧ (∀ key entry, step.parting key entry = .removed) ∧
      step.call.isPut = false ∧ step.call.isGet = false := by
    rcases step with ⟨call, clock, before, after⟩
    rcases removes with ⟨key, rfl⟩ | rfl <;> exact ⟨rfl, rfl, rfl, fun _ _ => rfl, rfl, rfl⟩
  have kept : ∀ (key : String) entry, step.stayed[key]? = some entry →
      step.before.entries[key]? = some entry := stayed ▸ fun key entry held => within key entry held
  have length := length_departed kept
  have same : ∀ departure ∈ step.departed, departure.parting = .removed := fun departure listed =>
    (of_departed listed).2.2.2.trans (parting _ _)
  have counts := count_of_same same
  refine ⟨?_, ?_, ?_, ?_, ?_, ?_, ?_, ?_⟩
  · rw [stats, unread]
    rfl
  · rw [stats, unput]
    rfl
  · rw [arrived, unput]
    rfl
  · rw [stats, counts]
    rfl
  · rw [stats, counts]
    rfl
  · rw [counts, unwritten]
    rfl
  · rw [counts, if_pos rfl]
    rw [stayed] at length
    omega
  · rw [arrived, List.append_nil, ← stayed]
    exact perm_departed kept

/-! ### Books of an insertion -/

section Insertions

variable (cache room : Cache E) (now : Nat) (key : String) (value : E) (lifetime : Option Nat)

/-- The step that puts a value under a key, where there is room. -/
def putting : CacheStep E :=
  ⟨.put key value lifetime, now, cache, room.insert key ⟨value, now, lifetime.getD cache.lifetime⟩⟩

variable {cache room now key value lifetime}

theorem stayed_putting : (putting cache room now key value lifetime).stayed = room.entries.erase key :=
  Table.erase_insert room.entries key _

/-- What was there before, with the entry that came, is there afterwards or has departed. -/
theorem perm_putting (within : room.Within cache) :
    (cache.entries.toList ++ (putting cache room now key value lifetime).arrived).Perm
      ((putting cache room now key value lifetime).after.entries.toList ++
        (putting cache room now key value lifetime).departed.map Departure.item) := by
  let step := putting cache room now key value lifetime
  have stayed : step.stayed = room.entries.erase key := stayed_putting
  have kept : ∀ (other : String) entry, step.stayed[other]? = some entry → cache.entries[other]? = some entry := by
    intro other entry held
    rw [stayed, Table.getElem?_erase_eq] at held
    split at held
    · cases held
    · exact within other entry held
  have before : cache.entries.toList.Perm (step.stayed.toList ++ step.departed.map Departure.item) :=
    perm_departed kept
  have after : step.after.entries.toList.Perm (step.arrived ++ step.stayed.toList) := by
    rw [stayed]
    exact Table.perm_toList_insert room.entries key _
  calc cache.entries.toList ++ step.arrived
      |>.Perm (step.arrived ++ cache.entries.toList) := List.perm_append_comm
    _ |>.Perm (step.arrived ++ (step.stayed.toList ++ step.departed.map Departure.item)) := before.append_left _
    _ |>.Perm (step.after.entries.toList ++ step.departed.map Departure.item) := by
        rw [← List.append_assoc]
        exact after.symm.append_right _

/-- An insertion balances in what it brings if making room changes neither the number of insertions nor that of
lookups, and the ways in which entries part are counted. -/
theorem balanced_putting (within : room.Within cache) (inserts : room.stats.inserts = cache.stats.inserts)
    (lookups : room.stats.hits + room.stats.misses = cache.stats.hits + cache.stats.misses)
    (counts : let step := putting cache room now key value lifetime
      let partings := step.departed.map Departure.parting
      room.stats.expirations = cache.stats.expirations + partings.count .expired ∧
        room.stats.evictions = cache.stats.evictions + partings.count .displaced ∧
        partings.count .replaced = step.overwritten ∧ partings.count .removed = 0) :
    (putting cache room now key value lifetime).Balanced where
  lookups := lookups
  inserts := congrArg (· + 1) inserts
  arrivals := rfl
  expirations := counts.1
  evictions := counts.2.1
  replaced := counts.2.2.1
  removed := counts.2.2.2
  entries := perm_putting within

/-- **An insertion balances that overwrites an entry or finds room.** -/
theorem balanced_overwriting : (putting cache cache now key value lifetime).Balanced := by
  let step := putting cache cache now key value lifetime
  have stayed : step.stayed = cache.entries.erase key := stayed_putting
  have within : ∀ (other : String) entry, step.stayed[other]? = some entry →
      cache.entries[other]? = some entry := stayed ▸ fun other entry held =>
    Cache.within_erase cache.stats key other entry held
  have alike : ∀ departure ∈ step.departed, departure.parting = .replaced := by
    intro departure listed
    obtain ⟨held, gone, _, parts⟩ := of_departed listed
    have same : departure.key = key := by
      by_contra differs
      rw [stayed, Std.ExtTreeMap.mem_iff_isSome_getElem?, Table.getElem?_erase_eq,
        if_neg (Ne.symm differs)] at gone
      exact gone (Option.isSome_of_eq_some held)
    exact parts.trans (if_pos same)
  have counts := count_of_same alike
  have one : step.departed.length = step.overwritten := by
    have length := length_departed within
    have sizes := Table.size_erase_add cache.entries key
    rw [stayed] at length
    exact Nat.add_left_cancel (length.trans sizes.symm)
  refine balanced_putting (Cache.Within.refl cache) rfl rfl ⟨?_, ?_, ?_, ?_⟩
  · exact (congrArg (cache.stats.expirations + ·) (counts .expired)).symm
  · exact (congrArg (cache.stats.evictions + ·) (counts .displaced)).symm
  · exact (counts .replaced).trans one
  · exact counts .removed

/-- Nothing is replaced where room is made: what leaves has expired or is displaced. -/
theorem parting_displacing (new : key ∉ cache.entries) {departure : Departure E}
    (listed : departure ∈ (putting cache room now key value lifetime).departed) :
    departure.parting = if departure.entry.isExpired now then .expired else .displaced := by
  obtain ⟨held, _, _, parts⟩ := of_departed listed
  have differs : departure.key ≠ key := by
    rintro rfl
    exact new (Std.ExtTreeMap.mem_iff_isSome_getElem?.mpr (Option.isSome_of_eq_some held))
  exact parts.trans (if_neg differs)

section Displacing

variable (cleared : Cache.Cleared now cache room) (new : key ∉ cache.entries)

include cleared new

/-- What is in the room that was made has stayed. -/
theorem stayed_displacing : (putting cache room now key value lifetime).stayed = room.entries := by
  have within : room.Within cache := cleared.within.trans (Cache.within_sweep cache now)
  refine stayed_putting.trans (Table.erase_of_not_mem fun held => new ?_)
  obtain ⟨entry, found⟩ := Option.isSome_iff_exists.mp (Std.ExtTreeMap.mem_iff_isSome_getElem?.mp held)
  exact Std.ExtTreeMap.mem_iff_isSome_getElem?.mpr (Option.isSome_of_eq_some (within key entry found))

/-- Where room is made, all leaves that has expired. -/
theorem expired_displacing :
    ((putting cache room now key value lifetime).departed.map Departure.parting).count .expired =
      cache.entries.toList.countP fun item => item.2.isExpired now := by
  let step := putting cache room now key value lifetime
  have stayed : step.stayed = room.entries := stayed_displacing cleared new
  have within : ∀ (other : String) entry, step.stayed[other]? = some entry → cache.entries[other]? = some entry :=
    stayed ▸ fun other entry held => Cache.within_sweep cache now other entry (cleared.within other entry held)
  have fresh : step.stayed.toList.countP (fun item => item.2.isExpired now) = 0 := by
    refine List.countP_eq_zero.mpr fun item listed => ?_
    rw [stayed, Table.mem_toList_iff] at listed
    have alive : (Table.alive now cache.entries)[item.1]? = some item.2 := cleared.within item.1 item.2 listed
    rw [Table.getElem?_alive, Option.filter_eq_some_iff] at alive
    simpa using alive.2
  have count := (perm_departed within).countP_eq fun item => item.2.isExpired now
  rw [List.countP_append, fresh, Nat.zero_add, List.countP_map] at count
  refine Eq.trans ?_ count.symm
  rw [List.count, List.countP_map]
  refine List.countP_congr fun departure listed => ?_
  rw [Function.comp_apply, parting_displacing new listed]
  show _ ↔ departure.entry.isExpired now = true
  split <;> simp_all

/-- **An insertion balances for which room is made**: what has expired goes, and what is displaced is alive. -/
theorem balanced_displacing : (putting cache room now key value lifetime).Balanced := by
  let step := putting cache room now key value lifetime
  let partings := step.departed.map Departure.parting
  have within : room.Within cache := cleared.within.trans (Cache.within_sweep cache now)
  have stayed : step.stayed = room.entries := stayed_displacing cleared new
  have never : ∀ way, way ≠ .expired → way ≠ .displaced → partings.count way = 0 := by
    intro way alive kept
    refine List.count_eq_zero.mpr fun listed => ?_
    obtain ⟨departure, member, rfl⟩ := List.mem_map.mp listed
    have parts := parting_displacing new member
    split at parts
    · exact alive parts
    · exact kept parts
  have ways := Parting.length_eq partings
  rw [never .replaced nofun nofun, never .removed nofun nofun, List.length_map] at ways
  have expired : partings.count .expired = _ := expired_displacing cleared new
  have length : step.stayed.size + step.departed.length = cache.entries.size :=
    length_departed (stayed ▸ fun other entry held => within other entry held)
  have all := Table.size_alive_add now cache.entries
  have expirations : room.stats.expirations =
    cache.stats.expirations + (cache.entries.size - (Table.alive now cache.entries).size) := cleared.expirations
  have evictions : room.stats.evictions + room.entries.size =
    cache.stats.evictions + (Table.alive now cache.entries).size := cleared.evictions
  rw [stayed] at length
  refine balanced_putting within cleared.inserts (by rw [cleared.hits, cleared.misses]) ⟨?_, ?_, ?_, ?_⟩
  · show room.stats.expirations = cache.stats.expirations + partings.count .expired
    omega
  · show room.stats.evictions = cache.stats.evictions + partings.count .displaced
    omega
  · refine (never .replaced nofun nofun).trans (if_neg ?_).symm
    exact fun held => new (Std.ExtTreeMap.mem_iff_contains.mpr held)
  · exact never .removed nofun nofun

end Displacing

end Insertions

end CacheStep

/-! ### Books of a run -/

/-- The counters of a cache after steps are those before them and what happened in the steps, every way of parting by
itself; and the entries before them, with those that came, are those after them, with those that left. -/
structure Cache.Books (before after : Cache E) (steps : List (CacheStep E)) : Prop where
  lookups : after.stats.hits + after.stats.misses =
    before.stats.hits + before.stats.misses + steps.countP fun step => step.call.isGet
  inserts : after.stats.inserts = before.stats.inserts + steps.countP fun step => step.call.isPut
  arrivals : (steps.flatMap CacheStep.arrived).length = steps.countP fun step => step.call.isPut
  expirations : after.stats.expirations = before.stats.expirations +
    ((steps.flatMap CacheStep.departed).map Departure.parting).count .expired
  evictions : after.stats.evictions = before.stats.evictions +
    ((steps.flatMap CacheStep.departed).map Departure.parting).count .displaced
  replaced : ((steps.flatMap CacheStep.departed).map Departure.parting).count .replaced =
    (steps.map CacheStep.overwritten).sum
  removed : ((steps.flatMap CacheStep.departed).map Departure.parting).count .removed =
    (steps.map CacheStep.takenAway).sum
  entries : (before.entries.toList ++ steps.flatMap CacheStep.arrived).Perm
    (after.entries.toList ++ (steps.flatMap CacheStep.departed).map Departure.item)

theorem Cache.Books.nil (cache : Cache E) : cache.Books cache [] where
  lookups := rfl
  inserts := rfl
  arrivals := rfl
  expirations := rfl
  evictions := rfl
  replaced := rfl
  removed := rfl
  entries := .refl _

/-- **A step that balances adds to the books.** -/
theorem Cache.Books.cons {step : CacheStep E} {final : Cache E} {steps : List (CacheStep E)}
    (balanced : step.Balanced) (rest : step.after.Books final steps) :
    step.before.Books final (step :: steps) where
  lookups := by
    rw [rest.lookups, balanced.lookups, List.countP_cons]
    omega
  inserts := by
    rw [rest.inserts, balanced.inserts, List.countP_cons]
    omega
  arrivals := by
    rw [List.flatMap_cons, List.length_append, rest.arrivals, balanced.arrivals, List.countP_cons, Nat.add_comm]
  expirations := by
    rw [rest.expirations, balanced.expirations, List.flatMap_cons, List.map_append, List.count_append, Nat.add_assoc]
  evictions := by
    rw [rest.evictions, balanced.evictions, List.flatMap_cons, List.map_append, List.count_append, Nat.add_assoc]
  replaced := by
    rw [List.flatMap_cons, List.map_append, List.count_append, balanced.replaced, rest.replaced, List.map_cons,
      List.sum_cons]
  removed := by
    rw [List.flatMap_cons, List.map_append, List.count_append, balanced.removed, rest.removed, List.map_cons,
      List.sum_cons]
  entries := by
    rw [List.flatMap_cons, List.flatMap_cons, List.map_append, ← List.append_assoc]
    let left := step.departed.map Departure.item
    let next := (steps.flatMap CacheStep.departed).map Departure.item
    calc (step.before.entries.toList ++ step.arrived) ++ steps.flatMap CacheStep.arrived
        |>.Perm ((step.after.entries.toList ++ left) ++ steps.flatMap CacheStep.arrived) :=
          balanced.entries.append_right _
      _ |>.Perm ((step.after.entries.toList ++ steps.flatMap CacheStep.arrived) ++ left) :=
          by
          rw [List.append_assoc, List.append_assoc]
          exact List.perm_append_comm.append_left _
      _ |>.Perm ((final.entries.toList ++ next) ++ left) := rest.entries.append_right left
      _ |>.Perm (final.entries.toList ++ (left ++ next)) := by
          rw [List.append_assoc]
          exact List.perm_append_comm.append_left _

namespace SweptCache

section Steps

variable (wall : Nat → Time.Instant) (now : Nat) (swept : SweptCache E)

/-- Sweeps that are due drop what has expired. -/
theorem sheds_run : Cache.Sheds now 0 swept.cache (swept.run now).cache := by
  unfold run
  cases swept.sweeper with
  | none => exact .refl _
  | some sweeper =>
    exact repeat_keeps (Cache.Sheds now 0 swept.cache)
      (fun cache sheds => sheds.trans (Nat.le_refl now) (Cache.sheds_sweep cache now)) (.refl _) _

/-- As time passes, nothing leaves but what has expired. -/
theorem sheds_advance (millis : Nat) :
    Cache.Sheds (now + millis) 0 swept.cache (Timed.advance wall now (now + millis) swept).cache :=
  Timed.advance_keeps_until (fun world : SweptCache E => Cache.Sheds (now + millis) 0 swept.cache world.cache)
    (fun moment world _ reached sheds =>
      sheds.trans (Nat.le_refl _) ((sheds_run moment.clock world).trans reached (.refl _)))
    (.refl _)

/-- **Every call balances.** -/
theorem balanced_step (call : CacheCall E) :
    CacheStep.Balanced
      ⟨call, (swept.step wall now call).1, swept.cache, (swept.step wall now call).2.2.cache⟩ := by
  cases call with
  | get key => exact CacheStep.balanced_of_sheds trivial (Cache.sheds_get swept.cache now key)
  | put key value lifetime =>
    show CacheStep.Balanced ⟨.put key value lifetime, now, swept.cache, swept.cache.put now key value lifetime⟩
    unfold Cache.put
    simp only [Bool.or_eq_true, decide_eq_true_eq]
    split
    · exact CacheStep.balanced_overwriting
    next unfit =>
      refine CacheStep.balanced_displacing (Cache.cleared_makeRoom swept.cache now) fun held => unfit (.inl ?_)
      exact Std.ExtTreeMap.mem_iff_contains.mp held
  | evict key =>
    exact CacheStep.balanced_of_removal (Cache.within_erase swept.cache.stats key) rfl (.inl ⟨key, rfl⟩)
      (Table.size_erase_add swept.cache.entries key)
  | clear =>
    exact CacheStep.balanced_of_removal (Cache.within_clear swept.cache) rfl (.inr rfl) (Nat.zero_add _)
  | sweep => exact CacheStep.balanced_of_sheds trivial (Cache.sheds_sweep swept.cache now)
  | advance millis => exact CacheStep.balanced_of_sheds trivial (sheds_advance wall now swept millis)
  | startSweeping =>
    dsimp only [step]
    cases swept.sweeper with
    | none => exact CacheStep.balanced_of_sheds trivial (.refl _)
    | some sweeper =>
      exact CacheStep.balanced_of_sheds trivial (sheds_run now ⟨swept.cache, some (sweeper.start now).2⟩)
  | stopSweeping =>
    dsimp only [step]
    cases swept.sweeper with
    | none => exact CacheStep.balanced_of_sheds trivial (.refl _)
    | some sweeper => exact CacheStep.balanced_of_sheds trivial (.refl _)

end Steps

/-- **Every run keeps its books.** -/
theorem books_trail (wall : Nat → Time.Instant) (now : Nat) (swept : SweptCache E) (calls : List (CacheCall E)) :
    swept.cache.Books (swept.stepAll wall now calls).2.cache (swept.trail wall now calls) := by
  induction calls generalizing now swept with
  | nil => exact .nil _
  | cons call rest ih => exact .cons (balanced_step wall now swept call) (ih _ _)

theorem calls_trail (wall : Nat → Time.Instant) (now : Nat) (swept : SweptCache E) (calls : List (CacheCall E)) :
    (swept.trail wall now calls).map CacheStep.call = calls := by
  induction calls generalizing now swept with
  | nil => rfl
  | cons call rest ih => exact congrArg (call :: ·) (ih _ _)

/-- What leaves in a run expired if it was dead and was not replaced or removed, and was displaced if it was alive. -/
theorem isExpired_of_departed {steps : List (CacheStep E)} {departure : Departure E}
    (listed : departure ∈ steps.flatMap CacheStep.departed) :
    (departure.parting = .expired → departure.entry.isExpired departure.time = true) ∧
      (departure.parting = .displaced → departure.entry.isExpired departure.time = false) := by
  obtain ⟨step, _, member⟩ := List.mem_flatMap.mp listed
  obtain ⟨_, _, time, parts⟩ := CacheStep.of_departed member
  rw [parts, time]
  exact CacheStep.isExpired_of_parting

/-- **Every entry of a cache is accounted for.** Whatever is asked of a cache, every lookup is a hit or a miss and
every insertion is counted. The entries that were put are those that are held and those that left, so that none leaves
twice; and the counters add up to them, as an entry leaves in one of four ways: it is counted as expired, which it is
only when it is dead, it is counted as displaced, which it is only while it is alive, a value put under its key
overwrites it, or a caller takes it away. -/
theorem entries_are_conserved :
    ∀ (wall : Nat → Time.Instant) (now lifetime maxEntries : Nat) (ties : Nat → Nat)
      (sweeper : Option Periodic) (calls : List (CacheCall E)),
      let start : SweptCache E := { cache := Cache.new lifetime maxEntries ties, sweeper }
      let cache := (start.stepAll wall now calls).2.cache
      let trail := start.trail wall now calls
      let departed := trail.flatMap CacheStep.departed
      cache.stats.hits + cache.stats.misses = calls.countP CacheCall.isGet ∧
      cache.stats.inserts = calls.countP CacheCall.isPut ∧
      cache.stats.inserts =
        cache.entries.size + cache.stats.evictions + cache.stats.expirations +
          (trail.map CacheStep.overwritten).sum + (trail.map CacheStep.takenAway).sum ∧
      (trail.flatMap CacheStep.arrived).Perm (cache.entries.toList ++ departed.map Departure.item) ∧
      cache.stats.expirations = (departed.map Departure.parting).count .expired ∧
      cache.stats.evictions = (departed.map Departure.parting).count .displaced ∧
      ∀ departure ∈ departed,
        (departure.parting = .expired → departure.entry.isExpired departure.time = true) ∧
        (departure.parting = .displaced → departure.entry.isExpired departure.time = false) := by
  intro wall now lifetime maxEntries ties sweeper calls start cache trail departed
  have books : start.cache.Books cache trail := books_trail wall now start calls
  have asked (ask : CacheCall E → Bool) : trail.countP (fun step => ask step.call) = calls.countP ask := by
    rw [← calls_trail wall now start calls, List.countP_map]
    rfl
  have empty : start.cache.entries.toList = [] :=
    List.length_eq_zero_iff.mp (Std.ExtTreeMap.length_toList.trans Std.ExtTreeMap.size_empty)
  have fresh : start.cache.stats = {} := rfl
  have lookups : cache.stats.hits + cache.stats.misses = calls.countP CacheCall.isGet := by
    rw [books.lookups, fresh, Nat.zero_add, Nat.zero_add, asked]
  have inserts : cache.stats.inserts = calls.countP CacheCall.isPut := by
    rw [books.inserts, fresh, Nat.zero_add, asked]
  have expirations : cache.stats.expirations = (departed.map Departure.parting).count .expired := by
    rw [books.expirations, fresh, Nat.zero_add]
  have evictions : cache.stats.evictions = (departed.map Departure.parting).count .displaced := by
    rw [books.evictions, fresh, Nat.zero_add]
  have entries : (trail.flatMap CacheStep.arrived).Perm (cache.entries.toList ++ departed.map Departure.item) := by
    simpa only [empty, List.nil_append] using books.entries
  refine ⟨lookups, inserts, ?_, entries, expirations, evictions, fun departure => isExpired_of_departed⟩
  have length : calls.countP CacheCall.isPut = cache.entries.size + departed.length := by
    have same := entries.length_eq
    rwa [books.arrivals, asked, List.length_append, List.length_map, Std.ExtTreeMap.length_toList] at same
  have ways := Parting.length_eq (departed.map Departure.parting)
  rw [List.length_map, ← expirations, ← evictions, books.replaced, books.removed] at ways
  omega

end SweptCache

end Switchboard

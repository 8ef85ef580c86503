/-
**A cache answers as a map that forgets in time.**

* `EagerMap.step` — the map under the calls of a cache. Sweeps, and starts and stops of a sweeper, are
  nothing to it.
* `SweptCache.account`, `EagerMap.account` — what calls answered and what could be seen after each of them,
  sweeps and the like left out.
* `SweptCache.seen_step` — every call is seen as the same call on the map.
* `SweptCache.accounts_as_eager_map` — the account of a cache is that of the map, wherever it is swept.
-/

import Switchboard.Proofs.Cache.Eager
import Switchboard.Proofs.Schedule.Timeline
import Switchboard.SweptCache

namespace Switchboard

variable {E : Type}

/-! ### Accounts -/

namespace CacheCall

/-- A call only has to do with dropping what has expired. -/
def isUpkeep : CacheCall E → Bool
  | sweep | startSweeping | stopSweeping => true
  | get _ | put _ _ _ | evict _ | clear | advance _ => false

/-- The value that a call read. -/
def valueRead : (call : CacheCall E) → call.Reply → Option E
  | get _, value => value
  | put _ _ _, _ | evict _, _ | clear, _ | sweep, _ | startSweeping, _ | stopSweeping, _
  | advance _, _ => none

end CacheCall

/-- A call, the value that it read, and what can be seen after it: the keys, how many there are, the
entries that are alive, and the counters. -/
structure CacheReport (E : Type) where
  call : CacheCall E
  value : Option E
  keys : List String
  size : Nat
  live : Table (CacheEntry E)
  hits : Nat
  misses : Nat
  inserts : Nat
  evictions : Nat

/-- What can be seen of a cache after a call. -/
def Cache.report (cache : Cache E) (now : Nat) (call : CacheCall E) (value : Option E) :
    CacheReport E where
  call := call
  value := value
  keys := cache.keys now
  size := cache.size now
  live := cache.live now
  hits := cache.stats.hits
  misses := cache.stats.misses
  inserts := cache.stats.inserts
  evictions := cache.stats.evictions

namespace EagerMap

/-- A map without entries. -/
def new (clock lifetime maxEntries : Nat) : EagerMap E :=
  { clock, lifetime, capacity := max maxEntries 1 }

/-- The value that a call reads, and the map after the call. -/
def step (victim : Nat → Table (CacheEntry E) → String) (map : EagerMap E) :
    CacheCall E → Option E × EagerMap E
  | .get key => map.get key
  | .put key value lifetime => (none, map.put victim key value lifetime)
  | .evict key => (none, map.evict key)
  | .clear => (none, map.clear)
  | .sweep | .startSweeping | .stopSweeping => (none, map)
  | .advance millis => (none, map.pass (map.clock + millis))

/-- What can be seen of a map after a call. -/
def report (map : EagerMap E) (call : CacheCall E) (value : Option E) : CacheReport E where
  call := call
  value := value
  keys := map.entries.keys
  size := map.entries.size
  live := map.entries
  hits := map.hits
  misses := map.misses
  inserts := map.inserts
  evictions := map.evictions

/-- What calls read and what can be seen after each, upkeep left out. -/
def account (victim : Nat → Table (CacheEntry E) → String) (map : EagerMap E) :
    List (CacheCall E) → List (CacheReport E)
  | [] => []
  | call :: rest =>
    let (value, after) := map.step victim call
    if call.isUpkeep then after.account victim rest
    else after.report call value :: after.account victim rest

/-- Upkeep is nothing to the map. -/
theorem account_without_upkeep (victim : Nat → Table (CacheEntry E) → String) (map : EagerMap E)
    (calls : List (CacheCall E)) :
    map.account victim (calls.filter fun call => !call.isUpkeep) = map.account victim calls := by
  induction calls generalizing map with
  | nil => rfl
  | cons call rest ih =>
    cases call with
    | sweep | startSweeping | stopSweeping => exact ih map
    | get key | put key value lifetime | evict key | clear | advance millis =>
      exact congrArg (List.cons _) (ih _)

end EagerMap

namespace SweptCache

/-- What calls read and what can be seen after each, upkeep left out. -/
def account (wall : Nat → Time.Instant) (now : Nat) (swept : SweptCache E) :
    List (CacheCall E) → List (CacheReport E)
  | [] => []
  | call :: rest =>
    let (clock, reply, after) := swept.step wall now call
    if call.isUpkeep then after.account wall clock rest
    else after.cache.report clock call (call.valueRead reply) :: after.account wall clock rest

/-- The clock and the cache after calls, one after the other. -/
def stepAll (wall : Nat → Time.Instant) (now : Nat) (swept : SweptCache E) :
    List (CacheCall E) → Nat × SweptCache E
  | [] => (now, swept)
  | call :: rest =>
    let (clock, _, after) := swept.step wall now call
    after.stepAll wall clock rest

/-! ### Calls -/

section Calls

variable (wall : Nat → Time.Instant) (now : Nat) {swept : SweptCache E}

/-- **The sweeps that are due are not seen.** -/
theorem seen_run (bounded : swept.cache.Bounded) :
    (swept.run now).cache.Bounded ∧ (swept.run now).cache.seen now = swept.cache.seen now := by
  let same (cache : Cache E) : Prop := cache.Bounded ∧ cache.seen now = swept.cache.seen now
  have sweeps : ∀ cache, same cache → same (cache.sweep now).2 := fun cache ⟨kept, unseen⟩ =>
    ⟨Cache.bounded_sweep kept now, (Cache.seen_sweep cache now).trans unseen⟩
  unfold run
  cases swept.sweeper with
  | none => exact ⟨bounded, rfl⟩
  | some sweeper => exact repeat_keeps same sweeps ⟨bounded, rfl⟩ _

/-- As time passes, the sweeps on the way are not seen. -/
theorem seen_advance (bounded : swept.cache.Bounded) (millis : Nat) :
    (Timed.advance wall now (now + millis) swept).cache.Bounded ∧
      (Timed.advance wall now (now + millis) swept).cache.seen (now + millis) =
        (swept.cache.seen now).pass (now + millis) := by
  rw [← Cache.seen_later (Nat.le_add_right now millis)]
  refine Timed.advance_keeps_until (fun world : SweptCache E => world.cache.Bounded ∧
    world.cache.seen (now + millis) = swept.cache.seen (now + millis)) ?_ ⟨bounded, rfl⟩
  rintro moment world _ early ⟨kept, same⟩
  obtain ⟨after, unseen⟩ := seen_run moment.clock kept
  refine ⟨after, ?_⟩
  calc (world.run moment.clock).cache.seen (now + millis)
      = ((world.run moment.clock).cache.seen moment.clock).pass (now + millis) :=
        Cache.seen_later early _
    _ = (world.cache.seen moment.clock).pass (now + millis) := by rw [unseen]
    _ = world.cache.seen (now + millis) := (Cache.seen_later early _).symm
    _ = swept.cache.seen (now + millis) := same

/-- **Every call is seen as the same call on the map.** -/
theorem seen_step (bounded : swept.cache.Bounded) (call : CacheCall E) :
    (swept.step wall now call).2.2.cache.Bounded ∧
      call.valueRead (swept.step wall now call).2.1 =
        ((swept.cache.seen now).step (Cache.victim swept.cache.ties) call).1 ∧
      (swept.step wall now call).2.2.cache.seen (swept.step wall now call).1 =
        ((swept.cache.seen now).step (Cache.victim swept.cache.ties) call).2 := by
  cases call with
  | get key =>
    obtain ⟨answer, after⟩ := Cache.seen_get swept.cache now key
    exact ⟨Cache.bounded_get bounded key, answer, after⟩
  | put key value lifetime =>
    exact ⟨Cache.bounded_put bounded now key value lifetime, rfl,
      Cache.seen_put bounded now key value lifetime⟩
  | evict key => exact ⟨Cache.bounded_evict bounded key, rfl, Cache.seen_evict swept.cache now key⟩
  | clear => exact ⟨Cache.bounded_clear bounded, rfl, Cache.seen_clear swept.cache now⟩
  | sweep => exact ⟨Cache.bounded_sweep bounded now, rfl, Cache.seen_sweep swept.cache now⟩
  | advance millis =>
    obtain ⟨kept, after⟩ := seen_advance wall now bounded millis
    exact ⟨kept, rfl, after⟩
  | startSweeping =>
    unfold step
    cases swept.sweeper with
    | none => exact ⟨bounded, rfl, rfl⟩
    | some sweeper =>
      have started : ({ swept with sweeper := some (sweeper.start now).2 } : SweptCache E).cache.Bounded :=
        bounded
      obtain ⟨kept, unseen⟩ := seen_run now started
      exact ⟨kept, rfl, unseen⟩
  | stopSweeping =>
    unfold step
    cases swept.sweeper with
    | none => exact ⟨bounded, rfl, rfl⟩
    | some sweeper => exact ⟨bounded, rfl, rfl⟩

/-- The sweeps that are due leave a cache as it was made. -/
theorem terms_run (swept : SweptCache E) : (swept.run now).cache.terms = swept.cache.terms := by
  unfold run
  cases swept.sweeper with
  | none => rfl
  | some sweeper =>
    have sweeps : ∀ cache : Cache E, cache.terms = swept.cache.terms →
        (cache.sweep now).2.terms = swept.cache.terms := fun _ same => same
    exact repeat_keeps _ sweeps rfl _

/-- **Every call leaves a cache as it was made.** -/
theorem terms_step (swept : SweptCache E) (call : CacheCall E) :
    (swept.step wall now call).2.2.cache.terms = swept.cache.terms := by
  cases call with
  | get key => exact Cache.terms_get swept.cache now key
  | put key value lifetime => exact Cache.terms_put swept.cache now key value lifetime
  | evict key | clear | sweep => rfl
  | advance millis =>
    exact Timed.advance_keeps (fun world : SweptCache E => world.cache.terms = swept.cache.terms)
      (fun moment world same => (terms_run moment.clock world).trans same) rfl
  | startSweeping =>
    unfold step
    cases swept.sweeper with
    | none => rfl
    | some sweeper => exact terms_run now _
  | stopSweeping =>
    unfold step
    cases swept.sweeper <;> rfl

theorem terms_stepAll (swept : SweptCache E) (calls : List (CacheCall E)) :
    (swept.stepAll wall now calls).2.cache.terms = swept.cache.terms := by
  induction calls generalizing now swept with
  | nil => rfl
  | cons call rest ih => exact (ih _ _).trans (terms_step wall now swept call)

theorem bounded_stepAll (bounded : swept.cache.Bounded) (calls : List (CacheCall E)) :
    (swept.stepAll wall now calls).2.cache.Bounded := by
  induction calls generalizing now swept with
  | nil => exact bounded
  | cons call rest ih => exact ih _ (seen_step wall now bounded call).1

/-- **Accounts agree.** -/
theorem account_eq (bounded : swept.cache.Bounded) (calls : List (CacheCall E)) :
    swept.account wall now calls =
      (swept.cache.seen now).account (Cache.victim swept.cache.ties) calls := by
  induction calls generalizing now swept with
  | nil => rfl
  | cons call rest ih =>
    obtain ⟨kept, value, after⟩ := seen_step wall now bounded call
    have ties : (swept.step wall now call).2.2.cache.ties = swept.cache.ties :=
      congrArg (fun terms => terms.2.2) (terms_step wall now swept call)
    have tail := ih (swept.step wall now call).1 kept
    rw [ties] at tail
    unfold account EagerMap.account
    dsimp only
    rw [tail, ← after, ← value]
    rfl

end Calls

/-- **A cache answers as a map that forgets in time.** The entry that makes room is one of the oldest, and any
of these can be it. For every such choice, and every lifetime, bound, sweeper and calls: (1) what the calls
read and what can be seen after each of them is what the map shows; (2) it is the same without the sweeper
and without the sweeps among the calls; (3) the cache never holds more than its bound, what has expired
included; (4) a read changes nothing of what is alive. -/
theorem accounts_as_eager_map :
    (∀ (evictions : Nat) (entries : Table (CacheEntry E)) (key : String), entries ≠ ∅ →
      (Table.Oldest entries key ↔ ∃ ties, Cache.victim ties evictions entries = key)) ∧
    ∀ (wall : Nat → Time.Instant) (now lifetime maxEntries : Nat) (ties : Nat → Nat)
      (sweeper : Option Periodic) (calls : List (CacheCall E)),
      let cache : Cache E := Cache.new lifetime maxEntries ties
      let reached := SweptCache.stepAll wall now { cache, sweeper } calls
      SweptCache.account wall now { cache, sweeper } calls =
          (EagerMap.new now lifetime maxEntries).account (Cache.victim ties) calls ∧
        SweptCache.account wall now { cache, sweeper } calls =
          SweptCache.account wall now { cache } (calls.filter fun call => !call.isUpkeep) ∧
        reached.2.cache.entries.size ≤ max maxEntries 1 ∧
        ∀ key, (reached.2.cache.get reached.1 key).2.live reached.1 =
          reached.2.cache.live reached.1 := by
  refine ⟨fun evictions entries key => Cache.oldest_iff_victim evictions, ?_⟩
  intro wall now lifetime maxEntries ties sweeper calls cache reached
  have bounded : ∀ sweeper, (SweptCache.mk cache sweeper).cache.Bounded := fun _ =>
    ⟨Nat.zero_le _, Nat.lt_of_lt_of_le Nat.one_pos (Nat.le_max_right _ _)⟩
  have begun : cache.seen now = EagerMap.new now lifetime maxEntries := by
    have nothing : cache.live now = ∅ := Table.alive_empty now
    unfold Cache.seen
    rw [nothing]
    rfl
  have agrees : ∀ sweeper calls, account wall now { cache, sweeper } calls =
      (EagerMap.new now lifetime maxEntries).account (Cache.victim ties) calls := by
    intro sweeper calls
    rw [← begun]
    exact account_eq wall now (bounded sweeper) calls
  refine ⟨agrees sweeper calls, ?_, ?_, fun key => Cache.live_get reached.2.cache reached.1 key⟩
  · rw [agrees sweeper calls, agrees none, EagerMap.account_without_upkeep]
  · have same : reached.2.cache.maxEntries = max maxEntries 1 :=
      congrArg (fun terms => terms.2.1) (terms_stepAll wall now { cache, sweeper } calls)
    rw [← same]
    exact (bounded_stepAll wall now (bounded sweeper) calls).held

end SweptCache

end Switchboard

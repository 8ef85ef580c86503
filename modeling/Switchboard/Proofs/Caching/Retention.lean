/-
**How little is read from a store, and how long a copy lasts.**

A single read asks the store once if no copy is alive, and otherwise not at all. What was found is kept until its
lifetime has passed, unless a change behind the cache or a refresh takes it away, or so many other entities come that it
has to make room.

* `Caching.find_of_live`, `Caching.find_of_dead` — what a single read does to the store and the cache.
* `Caching.Retaining` — a call behind a cache retains what it does not alter: so do all calls
  (`Caching.retaining_features`, `Caching.retaining_properties`), and so does every step
  (`CachedRepository.retains_step`).
* `CachedRepository.held_run` — **an entry stays through a run** that does not disturb it.
* `CachedRepository.reads_are_sparing` — **single reads are sparing, and copies last.**
-/

import Mathlib.Data.List.Infix
import Switchboard.Proofs.Cache.Retention
import Switchboard.Proofs.Caching.Fill
import Switchboard.Proofs.Caching.Staleness

namespace Switchboard

open Act

/-- A call is a single read of an identifier. -/
def StoreCall.IsReadOf {E : Type} : StoreCall E → String → Prop
  | find target, id | read target, id => target = id
  | has _, _ | fetch _, _ | all, _ | create _, _ | update _, _ | delete _, _ | save _, _ | deleteAll, _ | count, _
  | prepare, _ => False

/-! ### Calls -/

namespace Caching

open Cached

section Find

variable {E : Type} [Entity E] {moment : Moment} {cached : Cached E (Backend E)} {id : String}

/-- **A single read of a copy that is alive** asks nothing below. -/
theorem find_of_live {entry : CacheEntry E} (live : (cached.cache.live moment.clock)[id]? = some entry) :
    (find Backend.handle id).perform moment cached =
      (.ok (some entry.value), { cached with cache := (cached.cache.get moment.clock id).2 }) := by
  unfold find
  rw [perform_bind, perform_lookUp, Cache.get_of_live live]
  rfl

/-- **A single read without a copy that is alive** asks the store once, which finds the entity or not or is offline. -/
theorem find_of_dead (dead : (cached.cache.live moment.clock)[id]? = none) :
    (find Backend.handle id).perform moment cached =
      if cached.below.online then
        (.ok (cached.below.store.find? id),
          { cache := keeping moment.clock (cached.cache.get moment.clock id).2 id (cached.below.store.find? id)
            below := cached.below.counted (.find id) })
      else (.error Backend.offline,
        { cache := (cached.cache.get moment.clock id).2, below := cached.below.counted (.find id) }) := by
  rcases find_cases moment cached id with ⟨entry, held, alive, _⟩ | ⟨online, loaded⟩ | ⟨offline, refused⟩
  · cases dead.symm.trans (Cache.live_of_held held (CacheEntry.isExpired_eq_false.mpr alive))
  · rw [loaded, if_pos online]
  · rw [refused, if_neg (ne_true_of_eq_false offline)]

end Find

/-- What an action touches: what it may alter, if it succeeds. -/
def Touches {E α : Type} (alters : String → Prop) (action : Act (Cached E (Backend E)) α) (moment : Moment)
    (cached : Cached E (Backend E)) (id : String) : Prop :=
  alters id ∧ ∃ value, (action.perform moment cached).1 = .ok value

/-- A bounded cache retains what an action does not touch. -/
def Retaining {E α : Type} (alters : String → Prop) (action : Act (Cached E (Backend E)) α) : Prop :=
  ∀ moment (cached : Cached E (Backend E)), cached.cache.Bounded →
    cached.cache.Retains moment.clock (Touches alters action moment cached) (action.perform moment cached).2.cache

section Passed

variable {E α : Type} {settle : Nat → Cache E → Cache E} {above : Act (Cached E (Backend E)) α}
  {below : Act (Backend E) α} {alters : String → Prop}

/-- An action that is answered below retains what the settling of the cache does. -/
theorem Passed.retaining (passed : Passed settle above below)
    (settles : ∀ {touches : String → Prop} clock (cache : Cache E), cache.Bounded →
      (∀ id, alters id → touches id) → cache.Retains clock touches (settle clock cache)) :
    Retaining alters above := by
  intro moment cached bounded
  unfold Touches
  rw [passed moment cached]
  cases (below.perform moment cached.below).1 with
  | ok value => exact settles _ _ bounded fun id altered => ⟨altered, value, rfl⟩
  | error fault => exact .refl bounded

theorem retaining_unsettled (passed : Passed (fun _ cache => cache) above below) : Retaining alters above :=
  passed.retaining fun _ _ bounded _ => .refl bounded

theorem retaining_forgotten {target : String} (passed : Passed (fun _ cache => cache.evict target) above below)
    (altered : alters target) : Retaining alters above :=
  passed.retaining fun _ _ bounded touched => Cache.retains_evict bounded (touched _ altered)

theorem retaining_cleared (passed : Passed (fun _ cache => cache.clear) above below) (altered : ∀ id, alters id) :
    Retaining alters above :=
  passed.retaining fun _ _ bounded touched => Cache.retains_clear bounded fun id => touched id (altered id)

end Passed

section Store

variable {E : Type} [Entity E] {alters : String → Prop}

/-- A single read takes nothing away that is alive, unless it is crowded out. -/
theorem retains_find {touches : String → Prop} (moment : Moment) {cached : Cached E (Backend E)}
    (bounded : cached.cache.Bounded) (id : String) :
    cached.cache.Retains moment.clock touches ((find Backend.handle id).perform moment cached).2.cache := by
  cases looked : (cached.cache.live moment.clock)[id]? with
  | some entry =>
    rw [find_of_live looked]
    exact Cache.retains_get bounded id
  | none =>
    rw [find_of_dead looked]
    split
    · cases cached.below.store.find? id with
      | some entity => exact Cache.retains_get_put bounded looked entity
      | none => exact Cache.retains_get bounded id
    · exact Cache.retains_get bounded id

theorem retaining_read (id : String) : Retaining alters (store (E := E) Backend.handle (.read id)) := by
  intro moment cached bounded
  rw [perform_read]
  exact retains_find moment bounded id

/-- **Every call behind a cache** retains what it does not touch. -/
theorem retaining_store (call : StoreCall E) : Retaining call.Alters (store Backend.handle call) := by
  cases call with
  | find id => exact fun moment cached bounded => retains_find moment bounded id
  | read id => exact retaining_read id
  | create entity =>
    exact (passed_change _ _).retaining fun clock cache bounded touched =>
      Cache.retains_put bounded (touched _ rfl) entity
  | update entity => exact retaining_forgotten (passed_change _ _) rfl
  | delete id => exact retaining_forgotten (passed_change _ _) rfl
  | save entities => exact retaining_cleared (passed_change _ _) fun _ => trivial
  | deleteAll => exact retaining_cleared (passed_change _ _) fun _ => trivial
  | has id => exact retaining_unsettled (passed_under _)
  | fetch id => exact retaining_unsettled (passed_under _)
  | all => exact retaining_unsettled (passed_under _)
  | count => exact retaining_unsettled (passed_under _)
  | prepare => exact retaining_unsettled (passed_under _)

end Store

/-- **Every call of features behind a cache** retains what it does not touch. -/
theorem retaining_features (call : FeatureCall) :
    Retaining call.Alters (features (Repository.features Backend.handle) call) := by
  cases call with
  | store call => exact retaining_store call
  | setEnabled id enabled => exact retaining_forgotten (passed_change _ _) rfl
  | addToGroup id group => exact retaining_forgotten (passed_change _ _) rfl
  | removeFromGroup id group => exact retaining_forgotten (passed_change _ _) rfl
  | setGroupEnabled group enabled => exact retaining_cleared (passed_change _ _) fun _ => trivial
  | hasGroup group => exact retaining_unsettled (passed_under _)
  | readGroup group => exact retaining_unsettled (passed_under _)
  | groups => exact retaining_unsettled (passed_under _)

/-- **Every call of properties behind a cache** retains what it does not touch. -/
theorem retaining_properties (call : PropertyCall) :
    Retaining call.Alters (properties (Repository.properties Backend.handle) call) := by
  cases call with
  | store call => exact retaining_store call
  | setValue id raw => exact retaining_forgotten (passed_change _ _) rfl

theorem bounded_putAll {E : Type} [Entity E] {cache : Cache E} (bounded : cache.Bounded) (clock : Nat)
    (entities : List E) : (putAll clock entities cache).Bounded := by
  induction entities generalizing cache with
  | nil => exact bounded
  | cons entity rest ih => exact ih (Cache.bounded_put bounded clock _ entity none)

/-- A reload that succeeds touches everything, and one that is refused takes nothing away. -/
theorem retaining_reload {E : Type} [Entity E] : Retaining (fun _ => True) (reload (E := E) Backend.handle) := by
  intro moment cached bounded
  unfold Touches
  rcases reload_cases moment cached with ⟨_, loaded⟩ | ⟨_, refused⟩
  · rw [loaded]
    exact ⟨maxEntries_putAll _ _ _, bounded_putAll (Cache.bounded_clear bounded) _ _,
      fun id entry untouched _ _ => absurd ⟨trivial, _, rfl⟩ untouched⟩
  · rw [refused]
    exact .refl bounded

end Caching

/-! ### Runs -/

namespace CachedRepository

section Run

variable {E C : Type} [Entity E] {Reply : C → Type} {repository : CachedRepository E Reply}
  {wall : Nat → Time.Instant} {world start : CachedWorld E} {steps : List (CachedStep C)} {id : String}

/-- The calls behind a cache retain what they do not touch. -/
def Retaining (repository : CachedRepository E Reply) : Prop :=
  ∀ call, Caching.Retaining (repository.alters call) (repository.behind call)

/-- **Every step retains** what it does not disturb. -/
theorem retains_step (wall : Nat → Time.Instant) (retaining : repository.Retaining)
    (bounded : world.cached.cache.Bounded) (step : CachedStep C) :
    world.cached.cache.Retains world.clock (fun id => repository.Disturbs wall world id step)
      (repository.step wall world step).cached.cache := by
  cases step with
  | call call => exact retaining call (world.moment wall) world.cached bounded
  | refresh =>
    have reloaded := Caching.retaining_reload (world.moment wall) world.cached bounded
    exact ⟨reloaded.maxEntries, reloaded.bounded, fun id entry calm =>
      reloaded.entry id entry fun touched => calm touched.2⟩
  | sweep => exact Cache.retains_sweep bounded
  | direct call => exact .refl bounded
  | setOnline online => exact .refl bounded
  | advance millis => exact .refl bounded

/-- A cache stays bounded as it was. -/
theorem bounded_run (wall : Nat → Time.Instant) (retaining : repository.Retaining)
    (bounded : start.cached.cache.Bounded) (steps : List (CachedStep C)) :
    (repository.run wall start steps).cached.cache.Bounded ∧
      (repository.run wall start steps).cached.cache.maxEntries = start.cached.cache.maxEntries := by
  induction steps generalizing start with
  | nil => exact ⟨bounded, rfl⟩
  | cons step rest ih =>
    have retained := retains_step wall retaining bounded step
    obtain ⟨kept, same⟩ := ih retained.bounded
    exact ⟨kept, same.trans retained.maxEntries⟩

/-- A value was put into the cache under an identifier at a time or later, and was there after some of the steps. -/
def PutSince (repository : CachedRepository E Reply) (wall : Nat → Time.Instant) (start : CachedWorld E)
    (steps : List (CachedStep C)) (since : Nat) (id : String) : Prop :=
  ∃ earlier later, steps = earlier ++ later ∧
    ∃ entry, (repository.run wall start earlier).cached.cache.entries[id]? = some entry ∧ since ≤ entry.insertedAt

theorem PutSince.append {since : Nat} (put : repository.PutSince wall start steps since id)
    (more : List (CachedStep C)) : repository.PutSince wall start (steps ++ more) since id := by
  obtain ⟨earlier, later, rfl, held⟩ := put
  exact ⟨earlier, later ++ more, List.append_assoc _ _ _, held⟩

/-- An entry is no younger than the run in which it was put, and alive until the lifetime of the cache has passed. -/
theorem alive_of_young (sound : repository.Sound) (keyed : start.store.Keyed)
    (empty : start.cached.cache.entries = ∅) {earlier later : List (CachedStep C)} {entry : CacheEntry E}
    (held : (repository.run wall start earlier).cached.cache.entries[id]? = some entry)
    (young : (repository.run wall start (earlier ++ later)).clock < entry.insertedAt + start.cached.cache.lifetime) :
    entry.insertedAt ≤ (repository.run wall start (earlier ++ later)).clock ∧
      entry.isExpired (repository.run wall start (earlier ++ later)).clock = false := by
  obtain ⟨lasting, before, after, parted, _, inserted, _⟩ := entry_backed sound keyed empty earlier held
  have since : entry.insertedAt ≤ (repository.run wall start (earlier ++ later)).clock := by
    rw [← inserted, parted, List.append_assoc, run_append]
    exact clock_run _ _
  refine ⟨since, CacheEntry.isExpired_eq_false.mpr ?_⟩
  omega

/-- **An entry stays through a run** that does not disturb it, as long as it is alive and fewer other values come than
the cache may hold. -/
theorem held_run (sound : repository.Sound) (retaining : repository.Retaining) (keyed : start.store.Keyed)
    (empty : start.cached.cache.entries = ∅) (bounded : start.cached.cache.Bounded)
    {earlier later : List (CachedStep C)} {entry : CacheEntry E}
    (held : (repository.run wall start earlier).cached.cache.entries[id]? = some entry)
    (calm : repository.Undisturbed wall id (repository.run wall start earlier) later)
    (young : (repository.run wall start (earlier ++ later)).clock < entry.insertedAt + start.cached.cache.lifetime)
    {others : List String} (few : others.length < start.cached.cache.maxEntries)
    (counted : ∀ other, other ≠ id →
      repository.PutSince wall start (earlier ++ later) entry.insertedAt other → other ∈ others) :
    (repository.run wall start (earlier ++ later)).cached.cache.entries[id]? = some entry := by
  induction later using List.reverseRecOn with
  | nil => rwa [List.append_nil]
  | append_singleton later step ih =>
    rw [← List.append_assoc] at young counted ⊢
    obtain ⟨calmBefore, calmStep, _⟩ := undisturbed_append.mp calm
    rw [← run_append] at calmStep
    have clocks : (repository.run wall start (earlier ++ later)).clock ≤
        (repository.run wall start (earlier ++ later ++ [step])).clock := by
      rw [run_append _ (earlier ++ later)]
      exact clock_run _ _
    have heldBefore := ih calmBefore (Nat.lt_of_le_of_lt clocks young) fun other differs put =>
      counted other differs (put.append [step])
    obtain ⟨since, alive⟩ := alive_of_young sound keyed empty held (Nat.lt_of_le_of_lt clocks young)
    obtain ⟨kept, same⟩ := bounded_run wall retaining bounded (earlier ++ later)
    rw [run_append]
    refine ((retains_step wall retaining kept step).entry id entry calmStep heldBefore alive).resolve_right ?_
    rintro ⟨key, differs, crowded, new, put, time⟩
    have enough : _ ≤ others.length := crowded.count differs fun other apart late => by
      refine counted other apart ?_
      rcases late with rfl | ⟨kept, held, late⟩
      · exact ⟨_, [], (List.append_nil _).symm, new, by rwa [run_append], by omega⟩
      · exact PutSince.append ⟨_, [], (List.append_nil _).symm, kept, held, late⟩ [step]
    omega

/-! ### Reads -/

/-- The cache and the store after a call that every repository answers. -/
def after (repository : CachedRepository E Reply) (wall : Nat → Time.Instant) (world : CachedWorld E)
    (call : StoreCall E) : Cached E (Backend E) :=
  ((repository.single call).perform (world.moment wall) world.cached).2

/-- What single reads of an identifier ask of the store, and what they leave in the cache. -/
structure ReadsSparingly (repository : CachedRepository E Reply) (wall : Nat → Time.Instant) (world : CachedWorld E)
    (id : String) : Prop where
  /-- A copy that is alive answers, and the store is not asked. -/
  hit : ∀ entry, (world.cached.cache.live world.clock)[id]? = some entry →
    repository.find wall world id = .ok (some entry.value) ∧ repository.read wall world id = .ok entry.value ∧
      ∀ call : StoreCall E, call.IsReadOf id → (repository.after wall world call).below = world.cached.below
  /-- Otherwise the store is asked once, whether it finds something, finds nothing or is offline. -/
  miss : (world.cached.cache.live world.clock)[id]? = none → ∀ call : StoreCall E, call.IsReadOf id →
    (repository.after wall world call).below = { world.cached.below with reads := world.cached.below.reads + 1 }
  /-- What it finds is kept. -/
  loaded : (world.cached.cache.live world.clock)[id]? = none → ∀ entity,
    repository.find wall world id = .ok (some entity) → ∀ call : StoreCall E, call.IsReadOf id →
      (repository.after wall world call).cache.entries[id]? =
        some ⟨entity, world.clock, world.cached.cache.lifetime⟩
  /-- What is not found is not kept. -/
  unfound : (∀ entity, repository.find wall world id ≠ .ok (some entity)) →
    ∀ call : StoreCall E, call.IsReadOf id → (repository.after wall world call).cache.entries[id]? = none
  /-- What is created is kept. -/
  created : ∀ entity, Entity.id entity = id →
    ((repository.single (.create entity)).perform (world.moment wall) world.cached).1 = .ok () →
      (repository.after wall world (.create entity)).cache.entries[id]? =
        some ⟨entity, world.clock, world.cached.cache.lifetime⟩

/-- An entry of an identifier that was put into the cache, by a read or otherwise, and not disturbed since, answers all
single reads until the lifetime of the cache has passed since it was put, even if the store is offline; unless as many
other values as the cache may hold were put into it at this time or later. -/
def CopiesLast (repository : CachedRepository E Reply) (wall : Nat → Time.Instant) (start : CachedWorld E)
    (steps : List (CachedStep C)) (id : String) : Prop :=
  ∀ earlier later entry, steps = earlier ++ later →
    (repository.run wall start earlier).cached.cache.entries[id]? = some entry →
    repository.Undisturbed wall id (repository.run wall start earlier) later →
    (repository.run wall start steps).clock < entry.insertedAt + start.cached.cache.lifetime →
    ∀ others : List String, others.length < start.cached.cache.maxEntries →
      (∀ other, other ≠ id → repository.PutSince wall start steps entry.insertedAt other → other ∈ others) →
      repository.find wall (repository.run wall start steps) id = .ok (some entry.value) ∧
        repository.read wall (repository.run wall start steps) id = .ok entry.value ∧
        ∀ call : StoreCall E, call.IsReadOf id →
          (repository.after wall (repository.run wall start steps) call).below =
            (repository.run wall start steps).cached.below

/-- Both single reads do the same. -/
theorem after_eq (sound : repository.Sound) {call : StoreCall E} (reads : call.IsReadOf id) :
    repository.after wall world call =
      ((Caching.find Backend.handle id).perform (world.moment wall) world.cached).2 := by
  unfold after
  rw [sound.single]
  cases call with
  | find target =>
    cases reads
    rfl
  | read target =>
    cases reads
    rw [Caching.perform_read]
  | _ => exact reads.elim

/-- Single reads of a copy that is alive. -/
theorem Sound.search_of_live (sound : repository.Sound) (wall : Nat → Time.Instant) {entry : CacheEntry E}
    (live : (world.cached.cache.live world.clock)[id]? = some entry) :
    repository.find wall world id = .ok (some entry.value) ∧ ∀ call : StoreCall E, call.IsReadOf id →
      repository.after wall world call =
        { world.cached with cache := (world.cached.cache.get world.clock id).2 } := by
  have found : (Caching.find Backend.handle id).perform (world.moment wall) world.cached = _ :=
    Caching.find_of_live live
  refine ⟨?_, fun call reads => ?_⟩
  · rw [find_eq sound, found]
  · rw [after_eq sound reads, found]
    rfl

/-- Single reads without a copy that is alive. -/
theorem Sound.search_of_dead (sound : repository.Sound) (wall : Nat → Time.Instant)
    (dead : (world.cached.cache.live world.clock)[id]? = none) :
    repository.find wall world id =
        (if world.cached.below.online then .ok (world.cached.below.store.find? id)
          else .error Backend.offline) ∧
      ∀ call : StoreCall E, call.IsReadOf id → repository.after wall world call =
        { cache := if world.cached.below.online
            then Caching.keeping world.clock (world.cached.cache.get world.clock id).2 id
              (world.cached.below.store.find? id)
            else (world.cached.cache.get world.clock id).2
          below := world.cached.below.counted (.find id) } := by
  have asked : (Caching.find Backend.handle id).perform (world.moment wall) world.cached = _ :=
    Caching.find_of_dead dead
  refine ⟨?_, fun call reads => ?_⟩
  · rw [find_eq sound, asked]
    split <;> rfl
  · rw [after_eq sound reads, asked]
    split <;> rfl

/-- **Single reads are sparing.** -/
theorem Sound.readsSparingly (sound : repository.Sound) (wall : Nat → Time.Instant) (world : CachedWorld E)
    (id : String) : repository.ReadsSparingly wall world id where
  hit entry live := by
    obtain ⟨found, left⟩ := sound.search_of_live wall live
    refine ⟨found, ?_, fun call reads => ?_⟩
    · rw [read_eq sound, found]
      rfl
    · rw [left call reads]
  miss dead call reads := by
    rw [(sound.search_of_dead wall dead).2 call reads]
    rfl
  loaded dead entity found call reads := by
    obtain ⟨searched, left⟩ := sound.search_of_dead wall dead
    rw [searched] at found
    rw [left call reads]
    split at found
    next online =>
      have stored : world.cached.below.store.find? id = some entity := Except.ok.inj found
      rw [if_pos online, stored, ← Cache.lifetime_get world.cached.cache world.clock id]
      exact Cache.held_put_self _ _ _ _
    · cases found
  unfound nothing call reads := by
    cases looked : (world.cached.cache.live world.clock)[id]? with
    | some entry => exact absurd (sound.search_of_live wall looked).1 (nothing entry.value)
    | none =>
      obtain ⟨searched, left⟩ := sound.search_of_dead wall looked
      have gone := (Cache.get_of_dead looked).2
      rw [searched] at nothing
      rw [left call reads]
      split
      next online =>
        rw [if_pos online] at nothing
        cases stored : world.cached.below.store.find? id with
        | none => exact gone
        | some entity => exact absurd (congrArg Except.ok stored) (nothing entity)
      · exact gone
  created entity named succeeds := by
    subst named
    have answered : ¬StoreCall.FromCopy (.create entity) := fun copy => copy
    have passed := Caching.passed_store (Backend.handle (E := E)) answered (world.moment wall) world.cached
    unfold after
    rw [sound.single] at succeeds ⊢
    rw [passed] at succeeds ⊢
    dsimp only at succeeds ⊢
    rw [succeeds]
    exact Cache.held_put_self _ _ _ _

/-- **Copies last.** -/
theorem Sound.copiesLast (sound : repository.Sound) (retaining : repository.Retaining) (keyed : start.store.Keyed)
    (empty : start.cached.cache.entries = ∅) (bounded : start.cached.cache.Bounded) (steps : List (CachedStep C))
    (id : String) : repository.CopiesLast wall start steps id := by
  rintro earlier later entry rfl held calm young others few counted
  have stays := held_run sound retaining keyed empty bounded held calm young few counted
  have alive := (alive_of_young sound keyed empty held young).2
  exact (sound.readsSparingly wall _ id).hit entry (Cache.live_of_held stays alive)

end Run

theorem features_retaining : features.Retaining := Caching.retaining_features

theorem properties_retaining : properties.Retaining := Caching.retaining_properties

/-- **Single reads are sparing, and copies last**, for features and for properties, whatever is done to the repository,
to its store and to its cache. -/
theorem reads_are_sparing (wall : Nat → Time.Instant) {switches : Store Feature} {values : Store Property}
    (keyedSwitches : switches.Keyed) (keyedValues : values.Keyed) (lifetime maxEntries : Nat) (ties : Nat → Nat)
    (featureSteps : List (CachedStep FeatureCall)) (propertySteps : List (CachedStep PropertyCall)) (id : String) :
    let lamps := CachedWorld.start switches lifetime maxEntries ties
    let levels := CachedWorld.start values lifetime maxEntries ties
    (features.ReadsSparingly wall (features.run wall lamps featureSteps) id ∧
        features.CopiesLast wall lamps featureSteps id) ∧
      properties.ReadsSparingly wall (properties.run wall levels propertySteps) id ∧
        properties.CopiesLast wall levels propertySteps id := by
  intro lamps levels
  have room : 0 < max maxEntries 1 := Nat.lt_of_lt_of_le Nat.one_pos (Nat.le_max_right _ _)
  have boundedLamps : lamps.cached.cache.Bounded := ⟨Nat.zero_le _, room⟩
  have boundedLevels : levels.cached.cache.Bounded := ⟨Nat.zero_le _, room⟩
  have keyedLamps : lamps.store.Keyed := keyedSwitches
  have keyedLevels : levels.store.Keyed := keyedValues
  exact ⟨⟨features_sound.readsSparingly wall _ id,
      features_sound.copiesLast features_retaining keyedLamps rfl boundedLamps featureSteps id⟩,
    properties_sound.readsSparingly wall _ id,
    properties_sound.copiesLast properties_retaining keyedLevels rfl boundedLevels propertySteps id⟩

/-- A cache has room for two. A lamp is read, and a bell is three milliseconds later; then the store goes offline. Nine
milliseconds after it was read, the lamp is still found, and the store is not asked for it. A level that was created is
read from the cache as well. -/
theorem reads_are_sparing_of_lamp :
    let lamp := Feature.new "lamp" .epoch
    let bell := Feature.new "bell" .epoch
    let level := Property.new "lamp" (.int 1) .epoch
    let wall : Nat → Time.Instant := fun _ => .epoch
    let switches := CachedWorld.start ((Store.empty.insert bell).insert lamp) 10 2 (fun _ => 0)
    let values : CachedWorld Property := CachedWorld.start .empty 10 2 (fun _ => 0)
    let first : List (CachedStep FeatureCall) := [.call (.store (.read "lamp"))]
    let rest : List (CachedStep FeatureCall) :=
      [.advance 3, .call (.store (.read "bell")), .setOnline false, .advance 6]
    let reached := features.run wall switches (first ++ rest)
    let created := properties.run wall values [.call (.store (.create level))]
    reached.cached.below.online = false ∧ features.read wall reached "lamp" = .ok lamp ∧
      (features.after wall reached (.read "lamp")).below = reached.cached.below ∧
      properties.read wall created "lamp" = .ok level ∧
      (properties.after wall created (.read "lamp")).below = created.cached.below := by
  intro lamp bell level wall switches values first rest reached created
  have made : Store.ofList [bell, lamp] = .ok switches.store := by
    dsimp only [lamp, bell, switches]
    rfl
  obtain ⟨⟨_, lasting⟩, sparing, _⟩ := reads_are_sparing wall (Store.keyed_ofList made) Store.keyed_empty 10 2 (fun _ => 0)
    (first ++ rest) [.call (.store (.create level))] "lamp"
  have held : (features.run wall switches first).cached.cache.entries["lamp"]? = some ⟨lamp, 0, 10⟩ := by
    dsimp only [first, switches, lamp, bell, wall]
    rfl
  have heldLevel : created.cached.cache.entries["lamp"]? = some ⟨level, 0, 10⟩ := by
    dsimp only [created, values, level, wall]
    rfl
  have calm : features.Undisturbed wall "lamp" (features.run wall switches first) rest :=
    ⟨fun never => never, fun disturbed => disturbed.1, fun never => never, fun never => never, trivial⟩
  have keys : (first ++ rest).inits.all (fun part =>
      (features.run wall switches part).cached.cache.entries.keys.all ["lamp", "bell"].contains) = true := by
    decide +kernel
  have counted : ∀ other, other ≠ "lamp" → features.PutSince wall switches (first ++ rest) 0 other →
      other ∈ ["bell"] := by
    rintro other differs ⟨earlier, later, parted, entry, put, _⟩
    have reached := List.all_eq_true.mp keys earlier ((List.mem_inits _ _).mpr ⟨later, parted.symm⟩)
    have listed := List.all_eq_true.mp reached other
      (Std.ExtTreeMap.mem_keys.mpr (Std.ExtTreeMap.mem_iff_isSome_getElem?.mpr (Option.isSome_of_eq_some put)))
    simpa [differs] using listed
  have young : reached.clock < 0 + 10 := by decide +kernel
  obtain ⟨_, found, asked⟩ := lasting first rest ⟨lamp, 0, 10⟩ rfl held calm young ["bell"] (by decide) counted
  obtain ⟨_, read, unasked⟩ := sparing.hit ⟨level, 0, 10⟩ (Cache.live_of_held heldLevel (by decide))
  exact ⟨rfl, found, asked _ rfl, read, unasked _ rfl⟩

end CachedRepository

end Switchboard

/-
**How old a copy can be.**

A repository behind a cache is called while its store is also changed past the cache, goes offline and
comes back, the cache is refreshed and swept, and time passes, in any order.

* `CachedRepository.run` — what such a sequence of steps leaves.
* `CachedRepository.Undisturbed` — in a sequence of steps, no call behind the cache that may alter an
  identifier succeeds, and no refresh.
* `CachedRepository.entry_backed` — every entry of the cache was held by the store at an earlier moment of
  the run, when it was put, and the run is undisturbed since.
* `single_reads_recent` — what a single read answers was held by the store at a moment not further back
  than the lifetime of the cache, nor than the last refresh, nor than the last change behind the cache;
  what it reports as missing is missing.
-/

import Mathlib.Data.List.Induction
import Switchboard.Proofs.Caching.Reload

namespace Switchboard

open Act

/-- What happens to a repository behind a cache: a call behind the cache, a call on the store past it, the
store going offline or online, a refresh or a sweep of the cache, and time passing. -/
inductive CachedStep (C : Type) where
  | call (call : C)
  | direct (call : C)
  | setOnline (online : Bool)
  | refresh
  | sweep
  | advance (millis : Nat)

/-- A repository behind a cache, at a time. -/
structure CachedWorld (E : Type) where
  clock : Nat
  cached : Cached E (Backend E)

namespace CachedWorld

variable {E : Type}

/-- A store behind an empty cache. -/
def start (store : Store E) (lifetime maxEntries : Nat) (ties : Nat → Nat) : CachedWorld E :=
  { clock := 0, cached := { cache := Cache.new lifetime maxEntries ties, below := { store } } }

/-- What the store keeps. -/
def store (world : CachedWorld E) : Store E := world.cached.below.store

/-- The moment now, given what time it is on the wall. -/
def moment (wall : Nat → Time.Instant) (world : CachedWorld E) : Moment :=
  ⟨world.clock, wall world.clock⟩

end CachedWorld

/-- The calls of a repository: those that every repository answers, and all of them, behind a cache; all
of them on the store; and what a call may alter. -/
structure CachedRepository (E : Type) {C : Type} (Reply : C → Type) where
  single : StoreHandler E (Cached E (Backend E))
  behind : Handler Reply (Cached E (Backend E))
  onStore : Handler Reply (Backend E)
  alters : C → String → Prop

namespace CachedRepository

/-- The repository of features behind a cache. -/
def features : CachedRepository Feature FeatureCall.Reply where
  single call := Caching.features (Repository.features Backend.handle) (.store call)
  behind := Caching.features (Repository.features Backend.handle)
  onStore := Repository.features Backend.handle
  alters := FeatureCall.Alters

/-- The repository of properties behind a cache. -/
def properties : CachedRepository Property PropertyCall.Reply where
  single call := Caching.properties (Repository.properties Backend.handle) (.store call)
  behind := Caching.properties (Repository.properties Backend.handle)
  onStore := Repository.properties Backend.handle
  alters := PropertyCall.Alters

section Run

variable {E C : Type} [Entity E] {Reply : C → Type} (repository : CachedRepository E Reply)
  (wall : Nat → Time.Instant)

/-- The repository after a step. -/
def step (world : CachedWorld E) : CachedStep C → CachedWorld E
  | .call call =>
    { world with cached := ((repository.behind call).perform (world.moment wall) world.cached).2 }
  | .direct call =>
    { world with cached := { world.cached with
        below := ((repository.onStore call).perform (world.moment wall) world.cached.below).2 } }
  | .setOnline online =>
    { world with cached := { world.cached with below := { world.cached.below with online } } }
  | .refresh =>
    { world with cached :=
        ((Caching.reload Backend.handle).perform (world.moment wall) world.cached).2 }
  | .sweep =>
    { world with cached := { world.cached with
        cache := (world.cached.cache.sweep world.clock).2 } }
  | .advance millis => { world with clock := world.clock + millis }

/-- The repository after steps, one after the other. -/
def run (world : CachedWorld E) (steps : List (CachedStep C)) : CachedWorld E :=
  steps.foldl (repository.step wall) world

/-- A call behind the cache that may alter an identifier succeeds, or a refresh does. -/
def Disturbs (world : CachedWorld E) (id : String) : CachedStep C → Prop
  | .call call =>
    repository.alters call id ∧
      ∃ value, ((repository.behind call).perform (world.moment wall) world.cached).1 = .ok value
  | .refresh =>
    ∃ loaded,
      ((Caching.reload Backend.handle).perform (world.moment wall) world.cached).1 = .ok loaded
  | .direct _ | .setOnline _ | .sweep | .advance _ => False

/-- No step of a run disturbs an identifier. -/
def Undisturbed (id : String) : CachedWorld E → List (CachedStep C) → Prop
  | _, [] => True
  | world, step :: rest =>
    ¬repository.Disturbs wall world id step ∧ Undisturbed id (repository.step wall world step) rest

/-- The store held an entity under an identifier at a moment of the run: this moment is now or less than
the lifetime of the cache ago, and the run is undisturbed since. -/
def HeldLately (start : CachedWorld E) (steps : List (CachedStep C)) (id : String) (entity : E) : Prop :=
  ∃ earlier later, steps = earlier ++ later ∧
    (repository.run wall start earlier).store.find? id = some entity ∧
    (later = [] ∨ (repository.run wall start steps).clock - (repository.run wall start earlier).clock <
      start.cached.cache.lifetime) ∧
    repository.Undisturbed wall id (repository.run wall start earlier) later

/-- What a single read answers: the entity, if there is one. -/
def find (world : CachedWorld E) (id : String) : Except Fault (Option E) :=
  ((repository.single (.find id)).perform (world.moment wall) world.cached).1

/-- What a single read answers: the entity, which has to be there. -/
def read (world : CachedWorld E) (id : String) : Except Fault E :=
  ((repository.single (.read id)).perform (world.moment wall) world.cached).1

/-- What single reads of an identifier answer after a run. -/
structure ReadsRecent (start : CachedWorld E) (steps : List (CachedStep C)) (id : String) : Prop where
  /-- What is found was held by the store lately. -/
  found : ∀ entity,
    repository.find wall (repository.run wall start steps) id = .ok (some entity) ∨
      repository.read wall (repository.run wall start steps) id = .ok entity →
    repository.HeldLately wall start steps id entity
  /-- What is reported as missing is missing. -/
  missing :
    repository.find wall (repository.run wall start steps) id = .ok none ∨
      repository.read wall (repository.run wall start steps) id =
        .error (.notFound (Entity.kind E) id) →
    (repository.run wall start steps).store.find? id = none
  /-- What the store holds since a step is found by an online store, once the lifetime of the cache has
  passed since this step, or the step or a later one disturbs the identifier. -/
  visible : ∀ earlier step later content, steps = earlier ++ step :: later →
    (∀ part rest, later = part ++ rest →
      (repository.run wall start (earlier ++ step :: part)).store.find? id = content) →
    (start.cached.cache.lifetime ≤ (repository.run wall start steps).clock -
        (repository.run wall start (earlier ++ [step])).clock ∨
      ¬repository.Undisturbed wall id (repository.run wall start earlier) (step :: later)) →
    (repository.run wall start steps).cached.below.online = true →
    repository.find wall (repository.run wall start steps) id = .ok content

/-! ### Runs -/

variable {repository wall} {world start : CachedWorld E} {steps : List (CachedStep C)} {id : String}

theorem run_append (world : CachedWorld E) (first second : List (CachedStep C)) :
    repository.run wall world (first ++ second) =
      repository.run wall (repository.run wall world first) second :=
  List.foldl_append

theorem undisturbed_append {first second : List (CachedStep C)} :
    repository.Undisturbed wall id world (first ++ second) ↔
      repository.Undisturbed wall id world first ∧
        repository.Undisturbed wall id (repository.run wall world first) second := by
  induction first generalizing world with
  | nil => exact ⟨fun rest => ⟨trivial, rest⟩, And.right⟩
  | cons step rest ih =>
    show (_ ∧ repository.Undisturbed wall id _ (rest ++ second)) ↔ (_ ∧ _) ∧ _
    rw [ih, and_assoc]
    rfl

theorem clock_step (world : CachedWorld E) (step : CachedStep C) :
    world.clock ≤ (repository.step wall world step).clock := by
  cases step with
  | advance millis => exact Nat.le_add_right _ _
  | _ => exact Nat.le_refl _

theorem clock_run (world : CachedWorld E) (steps : List (CachedStep C)) :
    world.clock ≤ (repository.run wall world steps).clock := by
  induction steps generalizing world with
  | nil => exact Nat.le_refl _
  | cons step rest ih => exact Nat.le_trans (clock_step world step) (ih _)

/-! ### Steps -/

/-- What the steps of a run need to know of the calls: where the entries that they leave come from, and
that they are orderly. -/
structure Sound (repository : CachedRepository E Reply) : Prop where
  single : repository.single = Caching.store Backend.handle
  traced : ∀ call, Caching.Traced (repository.alters call) (repository.behind call)
  behind : Handler.Orderly (fun cached => cached.below.store) repository.alters repository.behind
  onStore : Handler.Orderly Backend.store repository.alters repository.onStore

theorem keyed_step (sound : repository.Sound) (keyed : world.store.Keyed) (step : CachedStep C) :
    (repository.step wall world step).store.Keyed := by
  cases step with
  | call call => exact sound.behind.keyed call _ _ keyed
  | direct call => exact sound.onStore.keyed call _ _ keyed
  | refresh =>
    show (((Caching.reload Backend.handle).perform _ _).2.below.store).Keyed
    rw [Caching.below_reload, Backend.store_counted]
    exact keyed
  | setOnline online => exact keyed
  | sweep => exact keyed
  | advance millis => exact keyed

theorem lifetime_step (sound : repository.Sound) (world : CachedWorld E) (step : CachedStep C) :
    (repository.step wall world step).cached.cache.lifetime = world.cached.cache.lifetime := by
  cases step with
  | call call => exact (sound.traced call).lifetime _ _
  | refresh => exact Caching.lifetime_reload _ _
  | _ => rfl

/-- **Every entry after a step** is an old one that the step did not disturb, or was put by the step and
holds what the store holds then. -/
theorem entry_of_step (sound : repository.Sound) (keyed : world.store.Keyed) {step : CachedStep C}
    {entry : CacheEntry E}
    (held : (repository.step wall world step).cached.cache.entries[id]? = some entry) :
    (world.cached.cache.entries[id]? = some entry ∧ ¬repository.Disturbs wall world id step) ∨
      (entry.insertedAt = (repository.step wall world step).clock ∧
        entry.lifetime = world.cached.cache.lifetime ∧
        (repository.step wall world step).store.find? id = some entry.value) := by
  cases step with
  | call call =>
    refine ((sound.traced call).entry _ _ _ _ held).imp ?_ fun put => put
    exact fun ⟨old, kept⟩ => ⟨old, fun ⟨alters, succeeds⟩ => kept succeeds alters⟩
  | refresh =>
    refine (Caching.entry_of_reload keyed held).imp (fun old => old) ?_
    rintro ⟨inserted, lasting, stored⟩
    refine ⟨inserted, lasting, ?_⟩
    show (((Caching.reload Backend.handle).perform _ _).2.below.store).find? id = _
    rw [Caching.below_reload, Backend.store_counted]
    exact stored
  | sweep => exact .inl ⟨Cache.within_sweep _ _ _ _ held, fun never => never⟩
  | direct call => exact .inl ⟨held, fun never => never⟩
  | setOnline online => exact .inl ⟨held, fun never => never⟩
  | advance millis => exact .inl ⟨held, fun never => never⟩

theorem keyed_run (sound : repository.Sound) (keyed : start.store.Keyed) (steps : List (CachedStep C)) :
    (repository.run wall start steps).store.Keyed := by
  induction steps generalizing start with
  | nil => exact keyed
  | cons step rest ih => exact ih (keyed_step sound keyed step)

theorem lifetime_run (sound : repository.Sound) (start : CachedWorld E) (steps : List (CachedStep C)) :
    (repository.run wall start steps).cached.cache.lifetime = start.cached.cache.lifetime := by
  induction steps generalizing start with
  | nil => rfl
  | cons step rest ih => exact (ih _).trans (lifetime_step sound start step)

/-- **Every entry of the cache** was held by the store when it was put, and the run is undisturbed
since. -/
theorem entry_backed (sound : repository.Sound) (keyed : start.store.Keyed)
    (empty : start.cached.cache.entries = ∅) (steps : List (CachedStep C)) {entry : CacheEntry E}
    (held : (repository.run wall start steps).cached.cache.entries[id]? = some entry) :
    entry.lifetime = start.cached.cache.lifetime ∧ ∃ earlier later, steps = earlier ++ later ∧
      (repository.run wall start earlier).store.find? id = some entry.value ∧
      (repository.run wall start earlier).clock = entry.insertedAt ∧
      repository.Undisturbed wall id (repository.run wall start earlier) later := by
  -- The last step of the run either put the entry or left it alone.
  induction steps using List.reverseRecOn with
  | nil =>
    have absent : start.cached.cache.entries[id]? = none := by
      rw [empty]
      exact Std.ExtTreeMap.getElem?_empty
    exact absurd (absent.symm.trans held) (by simp)
  | append_singleton steps step ih =>
    rw [run_append] at held
    rcases entry_of_step sound (keyed_run sound keyed steps) held with
      ⟨old, calm⟩ | ⟨inserted, lasting, stored⟩
    · obtain ⟨lasting, earlier, later, rfl, stored, inserted, undisturbed⟩ := ih old
      refine ⟨lasting, earlier, later ++ [step], List.append_assoc _ _ _, stored, inserted, ?_⟩
      rw [run_append] at calm
      exact undisturbed_append.mpr ⟨undisturbed, calm, trivial⟩
    · refine ⟨lasting.trans (lifetime_run sound start steps), steps ++ [step], [],
        (List.append_nil _).symm, ?_, ?_, trivial⟩
      · rw [run_append]
        exact stored
      · rw [run_append]
        exact inserted.symm

/-! ### Reads -/

theorem find_eq (sound : repository.Sound) (world : CachedWorld E) (id : String) :
    repository.find wall world id =
      ((Caching.find Backend.handle id).perform (world.moment wall) world.cached).1 := by
  unfold find
  rw [sound.single]
  rfl

theorem read_eq (sound : repository.Sound) (world : CachedWorld E) (id : String) :
    repository.read wall world id = repository.find wall world id >>= Switchboard.found id := by
  rw [find_eq sound]
  unfold read
  rw [sound.single, Caching.perform_read]

theorem find_of_read (sound : repository.Sound) {entity : E}
    (answer : repository.read wall world id = .ok entity) :
    repository.find wall world id = .ok (some entity) := by
  rw [read_eq sound] at answer
  obtain ⟨content, answered, present⟩ := Outcome.bind_eq_ok.mp answer
  cases content with
  | none => cases present
  | some other =>
    cases present
    exact answered

theorem find_of_read_missing (sound : repository.Sound)
    (answer : repository.read wall world id = .error (.notFound (Entity.kind E) id)) :
    repository.find wall world id = .ok none := by
  rw [read_eq sound, find_eq sound] at answer
  rw [find_eq sound]
  rcases Caching.find_cases (world.moment wall) world.cached id with
    ⟨entry, _, _, hit⟩ | ⟨_, loaded⟩ | ⟨_, refused⟩
  · rw [hit] at answer
    cases answer
  · rw [loaded] at answer ⊢
    cases content : world.cached.below.store.find? id with
    | none => rfl
    | some entity =>
      rw [content] at answer
      cases answer
  · rw [refused] at answer
    cases answer

theorem heldLately_of_find (sound : repository.Sound) (keyed : start.store.Keyed)
    (empty : start.cached.cache.entries = ∅) {entity : E}
    (answer : repository.find wall (repository.run wall start steps) id = .ok (some entity)) :
    repository.HeldLately wall start steps id entity := by
  rw [find_eq sound] at answer
  rcases Caching.find_cases ((repository.run wall start steps).moment wall)
      (repository.run wall start steps).cached id with
    ⟨entry, held, alive, hit⟩ | ⟨_, loaded⟩ | ⟨_, refused⟩
  · obtain ⟨lasting, earlier, later, parted, stored, inserted, calm⟩ :=
      entry_backed sound keyed empty steps held
    rw [hit] at answer
    cases answer
    refine ⟨earlier, later, parted, stored, .inr ?_, calm⟩
    rw [inserted, ← lasting]
    exact alive
  · rw [loaded] at answer
    refine ⟨steps, [], (List.append_nil _).symm, ?_, .inl rfl, trivial⟩
    exact Except.ok.inj answer
  · rw [refused] at answer
    cases answer

theorem missing_of_find (sound : repository.Sound)
    (answer : repository.find wall world id = .ok none) : world.store.find? id = none := by
  rw [find_eq sound] at answer
  rcases Caching.find_cases (world.moment wall) world.cached id with
    ⟨entry, _, _, hit⟩ | ⟨_, loaded⟩ | ⟨_, refused⟩
  · rw [hit] at answer
    cases answer
  · rw [loaded] at answer
    exact Except.ok.inj answer
  · rw [refused] at answer
    cases answer

/-- A copy that a read finds alive was put after a step that the lifetime of the cache has passed since,
or that was followed by a disturbance of the identifier. -/
theorem put_after (sound : repository.Sound) (keyed : start.store.Keyed)
    (empty : start.cached.cache.entries = ∅) {earlier later : List (CachedStep C)} {step : CachedStep C}
    {entry : CacheEntry E}
    (held : (repository.run wall start (earlier ++ step :: later)).cached.cache.entries[id]? = some entry)
    (alive : (repository.run wall start (earlier ++ step :: later)).clock - entry.insertedAt <
      entry.lifetime)
    (stale : start.cached.cache.lifetime ≤ (repository.run wall start (earlier ++ step :: later)).clock -
        (repository.run wall start (earlier ++ [step])).clock ∨
      ¬repository.Undisturbed wall id (repository.run wall start earlier) (step :: later)) :
    ∃ part rest, later = part ++ rest ∧
      (repository.run wall start (earlier ++ step :: part)).store.find? id = some entry.value := by
  obtain ⟨lasting, before, after, parted, stored, inserted, calm⟩ :=
    entry_backed sound keyed empty (earlier ++ step :: later) held
  -- A copy put before the step would be too old, or disturbed since.
  have late : ∀ between, earlier = before ++ between → after = between ++ step :: later → False := by
    rintro between rfl rfl
    rcases stale with old | disturbed
    · have order : (repository.run wall start before).clock ≤
          (repository.run wall start (before ++ between ++ [step])).clock := by
        rw [List.append_assoc, run_append]
        exact clock_run _ _
      omega
    · rw [run_append] at disturbed
      exact disturbed (undisturbed_append.mp calm).2
  rcases List.append_eq_append_iff.mp parted with
    ⟨between, reached, remains⟩ | ⟨between, reached, remains⟩
  · cases between with
    | nil => exact (late [] (by simpa using reached.symm) remains.symm).elim
    | cons next part =>
      cases remains
      rw [reached] at stored
      exact ⟨part, after, rfl, stored⟩
  · exact (late between reached remains).elim

/-- **Single reads of a sound repository answer what its store held lately.** -/
theorem Sound.readsRecent (sound : repository.Sound) (keyed : start.store.Keyed)
    (empty : start.cached.cache.entries = ∅) (steps : List (CachedStep C)) (id : String) :
    repository.ReadsRecent wall start steps id where
  found entity answer := by
    rcases answer with answer | answer
    · exact heldLately_of_find sound keyed empty answer
    · exact heldLately_of_find sound keyed empty (find_of_read sound answer)
  missing answer := by
    rcases answer with answer | answer
    · exact missing_of_find sound answer
    · exact missing_of_find sound (find_of_read_missing sound answer)
  visible earlier step later content parted stays stale online := by
    subst parted
    rw [find_eq sound]
    rcases Caching.find_cases
        ((repository.run wall start (earlier ++ step :: later)).moment wall)
        (repository.run wall start (earlier ++ step :: later)).cached id with
      ⟨entry, held, alive, hit⟩ | ⟨_, loaded⟩ | ⟨offline, _⟩
    · obtain ⟨part, rest, divided, stored⟩ := put_after sound keyed empty held alive stale
      rw [hit, ← stays part rest divided, stored]
    · rw [loaded]
      exact congrArg Except.ok (stays later [] (List.append_nil _).symm)
    · rw [online] at offline
      cases offline

end Run

theorem features_sound : features.Sound where
  single := rfl
  traced := Caching.traced_features
  behind := Caching.orderly_above Backend.features_orderly Caching.transparent_features
  onStore := Backend.features_orderly

theorem properties_sound : properties.Sound where
  single := rfl
  traced := Caching.traced_properties
  behind := Caching.orderly_above Backend.properties_orderly Caching.transparent_properties
  onStore := Backend.properties_orderly

/-- **Single reads of features and of properties answer what the store held lately**, whatever is done to
the repository, to its store and to its cache. -/
theorem single_reads_recent (wall : Nat → Time.Instant) {switches : Store Feature}
    {values : Store Property} (keyedSwitches : switches.Keyed) (keyedValues : values.Keyed)
    (lifetime maxEntries : Nat) (ties : Nat → Nat) (featureSteps : List (CachedStep FeatureCall))
    (propertySteps : List (CachedStep PropertyCall)) (id : String) :
    features.ReadsRecent wall (CachedWorld.start switches lifetime maxEntries ties) featureSteps id ∧
      properties.ReadsRecent wall (CachedWorld.start values lifetime maxEntries ties) propertySteps id := by
  have switchesStart : (CachedWorld.start switches lifetime maxEntries ties).store.Keyed := keyedSwitches
  have valuesStart : (CachedWorld.start values lifetime maxEntries ties).store.Keyed := keyedValues
  exact ⟨features_sound.readsRecent switchesStart rfl featureSteps id,
    properties_sound.readsRecent valuesStart rfl propertySteps id⟩

/-- A lamp is read, switched on past the cache and not refreshed as the store is offline: it is still found
switched off, as the store held it lately. Its level is set behind the cache. -/
theorem single_reads_recent_of_lamp :
    let lamp := Feature.new "lamp" .epoch
    let level := Property.new "lamp" (.int 1) .epoch
    let wall : Nat → Time.Instant := fun _ => .epoch
    let switches := CachedWorld.start (Store.empty.insert lamp) 10 1 (fun _ => 0)
    let values := CachedWorld.start (Store.empty.insert level) 10 1 (fun _ => 0)
    let steps : List (CachedStep FeatureCall) :=
      [.call (.store (.read "lamp")), .direct (.setEnabled "lamp" true), .setOnline false, .refresh,
        .advance 5]
    Store.ofList [lamp] = .ok switches.store ∧ Store.ofList [level] = .ok values.store ∧
      features.find wall (features.run wall switches steps) "lamp" = .ok (some lamp) ∧
      features.HeldLately wall switches steps "lamp" lamp ∧
      properties.ReadsRecent wall values
        [.call (.store (.find "lamp")), .call (.setValue "lamp" "2"), .sweep] "lamp" := by
  intro lamp level wall switches values steps
  have made : Store.ofList [lamp] = .ok switches.store := by
    dsimp only [lamp, switches]
    rfl
  have made' : Store.ofList [level] = .ok values.store := by
    dsimp only [level, values]
    rfl
  have found : features.find wall (features.run wall switches steps) "lamp" = .ok (some lamp) := by
    dsimp only [lamp, wall, switches, steps]
    rfl
  have recent := single_reads_recent wall (Store.keyed_ofList made) (Store.keyed_ofList made') 10 1 (fun _ => 0) steps
    [.call (.store (.find "lamp")), .call (.setValue "lamp" "2"), .sweep] "lamp"
  exact ⟨made, made', found, recent.1.found lamp (.inl found), recent.2⟩

end CachedRepository

end Switchboard

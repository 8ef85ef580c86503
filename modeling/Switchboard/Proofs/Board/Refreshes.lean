/-
**Refreshes that succeed and refreshes that fail.**

A refresh lists the store first. If that succeeds, it fills the cache anew; if it fails, the cache is left as it was.
Either is counted, and neither has a say in when the next refresh begins.

* `Collection.RefreshesSoundly` — what one refresh of a collection does; all refreshes do
  (`Collection.refreshesSoundly`).
* `Collection.workers` — the refresher and the sweeper of a collection, without their counters. What a call or a run
  makes of them depends on nothing else (`Collection.workers_handle`, `Collection.workers_run`).
* `RefreshTick`, `Watched` — a collection with a record of the refreshes that its refresher began.
* `Collection.Refreshed` — a collection after refreshes with these outcomes; `Collection.TellsRefreshes` — the refreshes
  on record are those that the refresher makes, and it counts them by their outcomes (`Collection.tellsRefreshes`).
* `Watched.InStep` — a collection and another one whose store never fails, with refreshes that began at the same times.
  Every step keeps them in step (`Watched.InStep.step`).
* `Collection.refreshes_fill_or_leave_be` — refreshes are sound, and a refresher keeps its schedule whatever fails.
-/

import Switchboard.Proofs.Board.Online
import Switchboard.Proofs.Board.Waiting
import Switchboard.Proofs.Caching.Fill

namespace Switchboard

open Act

/-! ### One refresh -/

namespace Refresher

/-- The refresher with one more success. -/
def succeeding (now : Time.Instant) (refresher : Refresher) : Refresher :=
  { refresher with
    stats := { refresher.stats with succeeded := refresher.stats.succeeded + 1, lastSuccess := some now } }

/-- The refresher with one more failure. -/
def failing (refresher : Refresher) : Refresher :=
  { refresher with stats := { refresher.stats with failed := refresher.stats.failed + 1 } }

end Refresher

namespace Collection

variable {E N : Type} [Entity E] {moment : Moment} {collection : Collection E N}

/-- A refresh at a moment fills the cache with what the store lists, and answers how much that is, or fails as the
store does, and leaves the cache as it was. The one is counted as a success, the other as a failure. -/
structure RefreshesSoundly (moment : Moment) (collection : Collection E N) : Prop where
  succeeds : ∀ listed, ((Backend.handle .all).perform moment collection.layered.backend).1 = .ok listed →
    let (outcome, after) := refresh.perform moment collection
    outcome = .ok collection.layered.backend.store.size ∧
      collection.layered.cache.FilledFrom collection.layered.backend.store moment.clock after.layered.cache ∧
      after.refresher = collection.refresher.map (Refresher.succeeding moment.wall)
  fails : ∀ fault, ((Backend.handle .all).perform moment collection.layered.backend).1 = .error fault →
    let (outcome, after) := refresh.perform moment collection
    outcome = .error fault ∧ after.layered.cache = collection.layered.cache ∧
      after.refresher = collection.refresher.map Refresher.failing

/-- A refresh is a reload that is counted. -/
theorem perform_refresh (moment : Moment) (collection : Collection E N) :
    refresh.perform moment collection =
      let (outcome, below) := (Caching.reload Backend.handle).perform moment collection.layered.below
      let reloaded := { collection with layered := { collection.layered with below } }
      match outcome with
      | .ok loaded =>
        (.ok loaded, { reloaded with refresher := collection.refresher.map (Refresher.succeeding moment.wall) })
      | .error fault =>
        (.error fault, { reloaded with refresher := collection.refresher.map Refresher.failing }) := by
  have reloading : (onLayered (Layered.belowNotices (Caching.reload Backend.handle))).perform moment collection =
      let (outcome, below) := (Caching.reload Backend.handle).perform moment collection.layered.below
      (outcome, { collection with layered := { collection.layered with below } }) := rfl
  unfold refresh
  rw [perform_bind, perform_attempt, reloading]
  cases (Caching.reload Backend.handle).perform moment collection.layered.below with
  | mk outcome below =>
    cases outcome with
    | ok loaded => rfl
    | error fault => rfl

/-- **Every refresh is sound.** -/
theorem refreshesSoundly (keyed : collection.layered.backend.store.Keyed)
    (room : 0 < collection.layered.cache.maxEntries) (moment : Moment) : RefreshesSoundly moment collection := by
  have refreshed := perform_refresh moment collection
  rcases Caching.reload_cases moment collection.layered.below with ⟨online, loaded⟩ | ⟨offline, refused⟩
  · rw [loaded] at refreshed
    have online : collection.layered.backend.online = true := online
    refine ⟨fun listed _ => ?_, fun fault fails => ?_⟩
    · rw [refreshed]
      refine ⟨congrArg Except.ok (Store.size_eq_length _).symm, ?_, rfl⟩
      exact Caching.filledFrom_putAll keyed room moment.clock
    · rw [Backend.perform_handle_online online] at fails
      cases fails
  · rw [refused] at refreshed
    have offline : collection.layered.backend.online = false := offline
    refine ⟨fun listed lists => ?_, fun fault fails => ?_⟩
    · rw [Backend.perform_handle_offline offline] at lists
      cases lists
    · rw [Backend.perform_handle_offline offline] at fails
      cases fails
      rw [refreshed]
      exact ⟨rfl, rfl, rfl⟩

end Collection

/-! ### Workers -/

/-- A refresher and a sweeper, without counters. -/
structure Workers where
  refresher : Option Periodic
  sweeper : Option Periodic

namespace Workers

/-- The workers when what is due has begun. -/
def run (clock : Nat) (workers : Workers) : Workers where
  refresher := workers.refresher.map fun worker => (worker.tickCount clock).2
  sweeper := workers.sweeper.map fun worker => (worker.tickCount clock).2

/-- The workers after a call. -/
def after {C : Type} (clock : Nat) (workers : Workers) : CollectionCall C → Workers
  | .startRefreshing => { workers with
      refresher := workers.refresher.map fun worker => (Collection.started clock worker).2 }
  | .stopRefreshing => { workers with
      refresher := workers.refresher.map fun worker => (Collection.stopped clock worker).2 }
  | .startSweeping => { workers with
      sweeper := workers.sweeper.map fun worker => (Collection.started clock worker).2 }
  | .stopSweeping => { workers with
      sweeper := workers.sweeper.map fun worker => (Collection.stopped clock worker).2 }
  | .call _ | .direct _ | .setOnline _ | .register _ _ | .unregister _ | .clearCache | .refresh => workers

end Workers

namespace Collection

section Workers

variable {E N C α : Type} [Entity E] {Reply : C → Type} {layered : Layers → Handler Reply (Layered E N)}
  {plain : Handler Reply (Backend E)}

/-- The refresher and the sweeper of a collection. -/
def workers (collection : Collection E N) : Workers where
  refresher := collection.refresher.map Refresher.worker
  sweeper := collection.sweeper

omit [Entity E] in
theorem SameWorkers.workers {before after : Collection E N} (same : SameWorkers before after) :
    after.workers = before.workers := by
  unfold Collection.workers
  rw [same.refresher, same.sweeper]

omit [Entity E] in
theorem workers_turnRefresher (turn : Nat → Periodic → Bool × Periodic) (moment : Moment)
    (collection : Collection E N) :
    ((turnRefresher turn).perform moment collection).2.workers =
      { collection.workers with
        refresher := collection.workers.refresher.map fun worker => (turn moment.clock worker).2 } := by
  unfold turnRefresher workers
  rw [perform_bind, perform_clock]
  dsimp only
  rw [perform_modifyGet]
  cases present : collection.refresher with
  | none => simp [present]
  | some refresher => rfl

omit [Entity E] in
theorem workers_turnSweeper (turn : Nat → Periodic → Bool × Periodic) (moment : Moment)
    (collection : Collection E N) :
    ((turnSweeper turn).perform moment collection).2.workers =
      { collection.workers with
        sweeper := collection.workers.sweeper.map fun worker => (turn moment.clock worker).2 } := by
  unfold turnSweeper workers
  rw [perform_bind, perform_clock]
  dsimp only
  rw [perform_modifyGet]
  cases present : collection.sweeper with
  | none => simp [present]
  | some sweeper => rfl

/-- **What a call makes of the workers** depends on nothing else. -/
theorem workers_handle (call : CollectionCall C) (moment : Moment) (collection : Collection E N) :
    ((handle layered plain call).perform moment collection).2.workers =
      collection.workers.after moment.clock call := by
  cases call with
  | startRefreshing => exact workers_turnRefresher started moment collection
  | stopRefreshing => exact workers_turnRefresher stopped moment collection
  | startSweeping => exact workers_turnSweeper started moment collection
  | stopSweeping => exact workers_turnSweeper stopped moment collection
  | refresh => exact (sameWorkers_refresh moment collection).workers
  | call | direct | setOnline | register | unregister | clearCache => rfl

/-- **What a run makes of the workers** depends on nothing else. -/
theorem workers_run (moment : Moment) (collection : Collection E N) :
    (collection.run moment).workers = collection.workers.run moment.clock := by
  have refreshed : (collection.runRefresher moment).workers =
      { collection.workers with refresher := (collection.workers.run moment.clock).refresher } := by
    unfold runRefresher
    split
    next absent => simp [workers, Workers.run, absent]
    next refresher present =>
      refine (sameWorkers_repeatedly sameWorkers_refresh _ moment _).workers.trans ?_
      unfold workers Workers.run
      rw [present]
      rfl
  -- The sweeper runs after the refresher, which left it alone.
  have unmoved : (collection.runRefresher moment).sweeper = collection.sweeper :=
    congrArg Workers.sweeper refreshed
  unfold run runSweeper
  split
  next absent =>
    rw [refreshed]
    rw [unmoved] at absent
    simp [workers, Workers.run, absent]
  next sweeper present =>
    refine (sameWorkers_repeatedly sameWorkers_sweep _ moment _).workers.trans ?_
    have refresher := congrArg Workers.refresher refreshed
    rw [unmoved] at present
    unfold workers Workers.run at refresher ⊢
    dsimp only at refresher ⊢
    rw [refresher, present]
    rfl

omit [Entity E] in
/-- When something is due depends on the workers alone. -/
theorem due?_eq (collection : Collection E N) :
    collection.due? = [collection.workers.refresher.bind Periodic.due?,
      collection.workers.sweeper.bind Periodic.due?].reduceOption.min? := by
  unfold due? workers
  rw [Option.bind_map]
  rfl

end Workers

end Collection

/-! ### Refreshes on record -/

/-- A refresh that a refresher began: when, and whether it succeeded. -/
structure RefreshTick where
  begins : Nat
  succeeds : Bool

/-- The refreshes that are due at a moment. -/
def Collection.dueTicks {E N : Type} [Entity E] (moment : Moment) (collection : Collection E N) :
    List RefreshTick :=
  match collection.refresher with
  | none => []
  | some refresher =>
    let (ticks, worker) := refresher.worker.tickCount moment.clock
    let begun := { collection with refresher := some { refresher with worker } }
    (List.range ticks).map fun earlier =>
      ⟨moment.clock, (refresh.perform moment (repeatedly refresh earlier moment begun)).1.isOk⟩

/-- A collection at a time, with the refreshes that its refresher began so far. -/
structure Watched (E N : Type) where
  clock : Nat
  collection : Collection E N
  ticks : List RefreshTick := []

/-- A call of a collection, its workers settling, or time passing. -/
inductive CollectionStep (C : Type) where
  | ask (call : CollectionCall C)
  | settle
  | advance (millis : Nat)

/-- The same step on a store that never fails. -/
def CollectionStep.online {C : Type} : CollectionStep C → CollectionStep C
  | ask call => ask call.online
  | settle => settle
  | advance millis => advance millis

namespace Watched

variable {E N C : Type} [Entity E] {Reply : CollectionCall C → Type}

/-- Everything that is due. -/
def run (moment : Moment) (watched : Watched E N) : Watched E N :=
  { watched with
    collection := watched.collection.run moment
    ticks := watched.ticks ++ watched.collection.dueTicks moment }

instance : Timed (Watched E N) where
  due? watched := watched.collection.due?
  run := run

/-- The moment that it is. -/
def moment (wall : Nat → Time.Instant) (watched : Watched E N) : Moment := ⟨watched.clock, wall watched.clock⟩

/-- The collection after a step. -/
def step (handler : Handler Reply (Collection E N)) (wall : Nat → Time.Instant) (watched : Watched E N) :
    CollectionStep C → Watched E N
  | .ask call =>
    { watched with collection := ((handler call).perform (watched.moment wall) watched.collection).2 }
  | .settle => run (watched.moment wall) watched
  | .advance millis =>
    let settled := run (watched.moment wall) watched
    { Timed.advance wall watched.clock (watched.clock + millis) settled with clock := watched.clock + millis }

/-- The collection after steps. -/
def runSteps (handler : Handler Reply (Collection E N)) (wall : Nat → Time.Instant) (watched : Watched E N)
    (steps : List (CollectionStep C)) : Watched E N :=
  steps.foldl (step handler wall) watched

end Watched

namespace Collection

variable {E N : Type} [Entity E]

/-- When refreshes are due depends on the workers alone. -/
theorem begins_dueTicks (moment : Moment) (collection : Collection E N) :
    (collection.dueTicks moment).map RefreshTick.begins =
      List.replicate ((collection.workers.refresher.map fun worker =>
        (worker.tickCount moment.clock).1).getD 0) moment.clock := by
  unfold dueTicks workers
  cases collection.refresher with
  | none => rfl
  | some refresher =>
    dsimp only [Option.map_some, Option.getD_some]
    rw [List.map_map]
    show (List.range _).map (fun _ => moment.clock) = _
    rw [List.map_const', List.length_range]

/-- A refresh is counted by the refresher as a success or as a failure. -/
theorem refresher_refresh (moment : Moment) (collection : Collection E N) :
    (refresh.perform moment collection).2.refresher = collection.refresher.map
      (if (refresh.perform moment collection).1.isOk then Refresher.succeeding moment.wall
        else Refresher.failing) := by
  rw [perform_refresh]
  cases (Caching.reload Backend.handle).perform moment collection.layered.below with
  | mk outcome below => cases outcome <;> rfl

/-- A collection after refreshes at a moment, of which each succeeded or failed as it is told. -/
inductive Refreshed (moment : Moment) (start : Collection E N) : List RefreshTick → Collection E N → Prop where
  | none : Refreshed moment start [] start
  | one {ticks : List RefreshTick} {before : Collection E N} (earlier : Refreshed moment start ticks before) :
    Refreshed moment start (ticks ++ [⟨moment.clock, (refresh.perform moment before).1.isOk⟩])
      (refresh.perform moment before).2

/-- The refresher counts refreshes by their outcomes. -/
theorem Refreshed.counts {moment : Moment} {start after : Collection E N} {ticks : List RefreshTick}
    {refresher : Refresher} (refreshed : Refreshed moment start ticks after)
    (present : start.refresher = some refresher) :
    ∃ counting, after.refresher = some counting ∧
      counting.stats.succeeded = refresher.stats.succeeded + ticks.countP (fun tick => tick.succeeds) ∧
      counting.stats.failed = refresher.stats.failed + ticks.countP (fun tick => !tick.succeeds) := by
  induction refreshed with
  | none => exact ⟨refresher, present, rfl, rfl⟩
  | @one ticks before _ ih =>
    obtain ⟨counting, kept, succeeded, failed⟩ := ih
    have counted := refresher_refresh moment before
    rw [kept] at counted
    refine ⟨_, counted, ?_⟩
    rw [List.countP_append, List.countP_append, ← Nat.add_assoc, ← Nat.add_assoc, ← succeeded, ← failed]
    cases (refresh.perform moment before).1.isOk <;> exact ⟨rfl, rfl⟩

/-- The collection when its refresher has moved on to the next deadline, before any refresh that is due. -/
def movedOn (moment : Moment) (collection : Collection E N) : Collection E N :=
  { collection with refresher := collection.refresher.map fun refresher =>
      { refresher with worker := (refresher.worker.tickCount moment.clock).2 } }

/-- **The refreshes on record are those that are made**: the refresher of a collection makes one refresh for each that is
due, which succeeds or fails as the record tells, and counts it so. -/
structure TellsRefreshes (moment : Moment) (collection : Collection E N) : Prop where
  made : Refreshed moment (collection.movedOn moment) (collection.dueTicks moment) (collection.runRefresher moment)
  counted : ∀ refresher, collection.refresher = some refresher →
    ∃ counting, (collection.runRefresher moment).refresher = some counting ∧
      counting.stats.succeeded =
        refresher.stats.succeeded + (collection.dueTicks moment).countP (fun tick => tick.succeeds) ∧
      counting.stats.failed =
        refresher.stats.failed + (collection.dueTicks moment).countP (fun tick => !tick.succeeds)

theorem refreshed_repeatedly (moment : Moment) (start : Collection E N) (ticks : Nat) :
    Refreshed moment start
      ((List.range ticks).map fun earlier =>
        ⟨moment.clock, (refresh.perform moment (repeatedly refresh earlier moment start)).1.isOk⟩)
      (repeatedly refresh ticks moment start) := by
  induction ticks with
  | zero => exact .none
  | succ earlier ih =>
    rw [List.range_succ, List.map_append]
    exact ih.one

theorem tellsRefreshes (moment : Moment) (collection : Collection E N) : collection.TellsRefreshes moment := by
  have made : Refreshed moment (collection.movedOn moment) (collection.dueTicks moment)
      (collection.runRefresher moment) := by
    unfold movedOn dueTicks runRefresher
    cases present : collection.refresher with
    | none =>
      have same : { collection with refresher := none } = collection := by rw [← present]
      exact same.symm ▸ .none
    | some refresher => exact refreshed_repeatedly moment _ _
  refine ⟨made, fun refresher present => ?_⟩
  have waiting : (collection.movedOn moment).refresher =
      some { refresher with worker := (refresher.worker.tickCount moment.clock).2 } :=
    congrArg (Option.map _) present
  have counted := made.counts waiting
  exact counted

/-- A store that is online fails no refresh. -/
theorem succeeds_dueTicks {moment : Moment} {collection : Collection E N} (online : collection.IsOnline) :
    ∀ tick ∈ collection.dueTicks moment, tick.succeeds = true := by
  unfold dueTicks
  cases collection.refresher with
  | none => exact nofun
  | some refresher =>
    intro tick listed
    obtain ⟨earlier, _, rfl⟩ := List.mem_map.mp listed
    let begun : Collection E N := { collection with
      refresher := some { refresher with worker := (refresher.worker.tickCount moment.clock).2 } }
    have still : (repeatedly refresh earlier moment begun).IsOnline :=
      online_repeatedly online_refresh earlier moment online
    exact congrArg Except.isOk (refresh_of_online still)

end Collection

/-! ### In step -/

namespace Watched

variable {E N C : Type} [Entity E] {watched reference : Watched E N} {wall : Nat → Time.Instant}

/-- Two collections have the same workers, refreshes began in both at the same times, and the store of the second one
is online and failed none of them. -/
structure InStep (watched reference : Watched E N) : Prop where
  clock : watched.clock = reference.clock
  workers : watched.collection.workers = reference.collection.workers
  begins : watched.ticks.map RefreshTick.begins = reference.ticks.map RefreshTick.begins
  online : reference.collection.IsOnline
  succeeds : ∀ tick ∈ reference.ticks, tick.succeeds = true

/-- **What is due keeps two collections in step.** -/
theorem InStep.run (inStep : InStep watched reference) (moment : Moment) :
    InStep (run moment watched) (run moment reference) where
  clock := inStep.clock
  workers := by
    show (watched.collection.run moment).workers = (reference.collection.run moment).workers
    rw [Collection.workers_run, Collection.workers_run, inStep.workers]
  begins := by
    show (watched.ticks ++ _).map _ = (reference.ticks ++ _).map _
    rw [List.map_append, List.map_append, inStep.begins, Collection.begins_dueTicks, Collection.begins_dueTicks,
      inStep.workers]
  online := Collection.online_run moment inStep.online
  succeeds := List.forall_mem_append.mpr ⟨inStep.succeeds, Collection.succeeds_dueTicks inStep.online⟩

/-- **Time keeps two collections in step.** -/
theorem InStep.advance (inStep : InStep watched reference) (wall : Nat → Time.Instant) (now target : Nat) :
    InStep (Timed.advance wall now target watched) (Timed.advance wall now target reference) := by
  refine Timed.advance_alike InStep ?_ (fun moment _ _ inStep => inStep.run moment) inStep
  intro watched reference inStep
  show watched.collection.due? = reference.collection.due?
  rw [Collection.due?_eq, Collection.due?_eq, inStep.workers]

/-- **A step keeps two collections in step** if it does not take the store of the second one offline. -/
theorem InStep.step {Reply : C → Type} {layered : Layers → Handler Reply (Layered E N)}
    {plain : Handler Reply (Backend E)} (above : ∀ layers call, Keeps Layered.IsOnline (layered layers call))
    (below : ∀ call, Keeps (fun backend => backend.online = true) (plain call))
    (inStep : InStep watched reference) (step : CollectionStep C) :
    InStep (watched.step (Collection.handle layered plain) wall step)
      (reference.step (Collection.handle layered plain) wall step.online) := by
  have clock := inStep.clock
  have same : reference.moment wall = watched.moment wall := by
    unfold moment
    rw [clock]
  cases step with
  | ask call =>
    have asked : InStep
        { watched with collection :=
          ((Collection.handle layered plain call).perform (watched.moment wall) watched.collection).2 }
        { reference with collection :=
          ((Collection.handle layered plain call.online).perform (watched.moment wall) reference.collection).2 } := by
      refine ⟨clock, ?_, inStep.begins, ?_, inStep.succeeds⟩
      · dsimp only
        rw [Collection.workers_handle, Collection.workers_handle, inStep.workers]
        cases call <;> rfl
      · exact Collection.online_handle above below call _ _ inStep.online
    unfold Watched.step
    dsimp only [CollectionStep.online]
    rw [same]
    exact asked
  | settle =>
    unfold Watched.step
    dsimp only [CollectionStep.online]
    rw [same]
    exact inStep.run _
  | advance millis =>
    have moved := (inStep.run (watched.moment wall)).advance wall watched.clock (watched.clock + millis)
    unfold Watched.step
    dsimp only [CollectionStep.online]
    rw [same, ← clock]
    exact ⟨rfl, moved.workers, moved.begins, moved.online, moved.succeeds⟩

/-- **Steps keep two collections in step.** -/
theorem InStep.runSteps {Reply : C → Type} {layered : Layers → Handler Reply (Layered E N)}
    {plain : Handler Reply (Backend E)} (above : ∀ layers call, Keeps Layered.IsOnline (layered layers call))
    (below : ∀ call, Keeps (fun backend => backend.online = true) (plain call))
    (inStep : InStep watched reference) (wall : Nat → Time.Instant) (steps : List (CollectionStep C)) :
    InStep (watched.runSteps (Collection.handle layered plain) wall steps)
      (reference.runSteps (Collection.handle layered plain) wall (steps.map CollectionStep.online)) := by
  induction steps generalizing watched reference with
  | nil => exact inStep
  | cons step rest ih => exact ih (inStep.step above below step)

end Watched

/-! ### Schedules -/

namespace Collection

/-- The collection with its store online. -/
def online {E N : Type} (collection : Collection E N) : Collection E N :=
  { collection with layered := { collection.layered with
      below := { collection.layered.below with below := { collection.layered.backend with online := true } } } }

/-- From a time on the refreshes of a collection begin when they would begin if its store never failed: at the same
times as in the collection with its store online, under steps that leave it online, and there all refreshes
succeed. The refreshes on record are those that its refresher makes. -/
def KeepsSchedule {E N C : Type} [Entity E] {Reply : CollectionCall C → Type}
    (handler : Handler Reply (Collection E N)) (collection : Collection E N) : Prop :=
  ∀ (wall : Nat → Time.Instant) (now : Nat) (steps : List (CollectionStep C)),
    let watched := Watched.runSteps handler wall ⟨now, collection, []⟩ steps
    let reference := Watched.runSteps handler wall ⟨now, collection.online, []⟩ (steps.map CollectionStep.online)
    watched.ticks.map RefreshTick.begins = reference.ticks.map RefreshTick.begins ∧
      (∀ tick ∈ reference.ticks, tick.succeeds = true) ∧ ∀ moment, watched.collection.TellsRefreshes moment

theorem keepsSchedule {E N C : Type} [Entity E] {Reply : C → Type}
    {layered : Layers → Handler Reply (Layered E N)} {plain : Handler Reply (Backend E)}
    (above : ∀ layers call, Keeps Layered.IsOnline (layered layers call))
    (below : ∀ call, Keeps (fun backend => backend.online = true) (plain call)) (collection : Collection E N) :
    KeepsSchedule (handle layered plain) collection := by
  intro wall now steps
  have begun : Watched.InStep ⟨now, collection, []⟩ ⟨now, collection.online, []⟩ :=
    ⟨rfl, rfl, rfl, rfl, nofun⟩
  have ended := begun.runSteps above below wall steps
  exact ⟨ended.begins, ended.succeeds, fun moment => tellsRefreshes moment _⟩

/-- **A refresh fills the cache or leaves it as it was, and a refresher keeps its schedule.** Whatever the store and
the cache of a collection hold: a refresh that can list the store answers how much it keeps and leaves a cache in which
what is alive is what the store keeps under its identifier, as much of it as there is room for until its lifetime has
passed; a refresh that cannot list the store fails as the store does and leaves the cache, with its counters, as it
was. The one counts as one more success, the other as one more failure. Whatever is asked of the collection while time
passes, its refreshes begin at the times at which they would begin if none of them had failed; what is told of them is
what its refresher does. -/
theorem refreshes_fill_or_leave_be {switches : Collection Feature FeatureNotice}
    {values : Collection Property PropertyNotice} (keyedSwitches : switches.layered.backend.store.Keyed)
    (keyedValues : values.layered.backend.store.Keyed) (roomForSwitches : 0 < switches.layered.cache.maxEntries)
    (roomForValues : 0 < values.layered.cache.maxEntries) (moment : Moment) :
    RefreshesSoundly moment switches ∧ RefreshesSoundly moment values ∧
      KeepsSchedule Board.featureCalls switches ∧ KeepsSchedule Board.propertyCalls values :=
  ⟨refreshesSoundly keyedSwitches roomForSwitches moment, refreshesSoundly keyedValues roomForValues moment,
    keepsSchedule Layered.online_features
      (fun call moment backend online => (Backend.features_answers.online_perform call moment backend).trans online)
      switches,
    keepsSchedule Layered.online_properties
      (fun call moment backend online => (Backend.properties_answers.online_perform call moment backend).trans online)
      values⟩

/-- A cache with room for one entry, under a store of two lamps that is offline at first: the refresh that begins at once
fails, and the two that follow ten milliseconds apart succeed. -/
theorem refreshes_of_lamps :
    let store := (Store.empty.insert (Feature.new "lamp" .epoch)).insert (Feature.new "mirror" .epoch)
    let switches : Collection Feature FeatureNotice :=
      { layers := ⟨true, true⟩
        layered := Layered.new store 20 1 (fun _ => 0)
        refresher := some { worker := Periodic.new 0 10 } }
    let values : Collection Property PropertyNotice :=
      { layers := ⟨true, true⟩, layered := Layered.new .empty 20 1 (fun _ => 0) }
    let steps : List (CollectionStep FeatureCall) :=
      [.ask (.setOnline false), .ask .startRefreshing, .advance 5, .ask (.setOnline true), .advance 20]
    let watched := Watched.runSteps Board.featureCalls (fun _ => .epoch) ⟨0, switches, []⟩ steps
    let steady := Watched.runSteps Board.featureCalls (fun _ => .epoch) ⟨0, switches.online, []⟩
      (steps.map CollectionStep.online)
    let (outcome, refreshed) := refresh.perform ⟨3, .epoch⟩ switches
    outcome = .ok 2 ∧ refreshed.layered.cache.size 22 = 1 ∧ refreshed.layered.cache.size 23 = 0 ∧
      watched.ticks.map RefreshTick.succeeds = [false, true, true] ∧
      watched.ticks.map RefreshTick.begins = [0, 10, 20] ∧ steady.ticks.map RefreshTick.begins = [0, 10, 20] ∧
      RefreshesSoundly ⟨3, .epoch⟩ values ∧ KeepsSchedule Board.propertyCalls values := by
  intro store switches values steps watched steady
  have keyed : switches.layered.backend.store.Keyed := (Store.keyed_empty.insert _).insert _
  have keyedValues : values.layered.backend.store.Keyed := Store.keyed_empty
  obtain ⟨sound, soundValues, scheduled, scheduledValues⟩ :
      RefreshesSoundly ⟨3, .epoch⟩ switches ∧ RefreshesSoundly ⟨3, .epoch⟩ values ∧
        KeepsSchedule Board.featureCalls switches ∧ KeepsSchedule Board.propertyCalls values :=
    refreshes_fill_or_leave_be keyed keyedValues (by decide) (by decide) ⟨3, .epoch⟩
  obtain ⟨answered, filled, _⟩ := sound.succeeds store.toList rfl
  have two : store.size = 2 := by
    dsimp only [store]
    rfl
  have begins : watched.ticks.map RefreshTick.begins = [0, 10, 20] := by decide +kernel
  refine ⟨two ▸ answered, ?_, ?_, ?_, begins, ?_, soundValues, scheduledValues⟩
  · refine (filled.size 19).trans ?_
    show (if 19 < 20 then min store.size 1 else 0) = 1
    rw [two]
    rfl
  · exact filled.size 20
  · decide +kernel
  · exact (scheduled (fun _ => .epoch) 0 steps).1.symm.trans begins

end Collection

end Switchboard

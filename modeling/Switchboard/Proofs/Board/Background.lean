/-
**What happens in the background of a collection.**

* `Collection.Twin` — a collection with a coherent cache and one without a cache, with the same contents,
  notices and listeners.
* `Collection.Idle` — a change that no twin can notice. Refreshes, sweeps, starts and stops are such
  changes, and so is everything that is due (`Collection.idle_run`).
-/

import Switchboard.Board.Collection
import Switchboard.Proofs.Caching.Coherence
import Switchboard.Proofs.Repository.Agree

namespace Switchboard

open Act

variable {E N : Type} [Entity E]

/-! ### Caches -/

/-- A change that twins on either side stay twins under. -/
structure Cached.Idle (before after : Cached E (Backend E)) : Prop where
  decorated : ∀ plain, Cached.Twin before plain → Cached.Twin after plain
  plain : ∀ decorated, Cached.Twin decorated before → Cached.Twin decorated after

theorem Cached.idle_drop {before : Cached E (Backend E)} {cache : Cache E}
    (drops : cache.Within before.cache) : Cached.Idle before { before with cache } where
  decorated _ twin := twin.within drops
  plain _ twin := twin.unused cache

theorem Cached.idle_reload (moment : Moment) (before : Cached E (Backend E)) :
    Cached.Idle before ((Caching.reload Backend.handle).perform moment before).2 where
  decorated _ twin := twin.reload moment
  plain _ twin := twin.reload_unused moment

/-! ### Collections -/

namespace Collection

/-- A collection with a coherent cache and one without a cache, with the same contents, the same notices
and the same listeners. -/
structure Twin (decorated plain : Collection E N) : Prop where
  layers : decorated.layers = { cached := true, notifying := true }
  plainLayers : plain.layers = { cached := false, notifying := true }
  layered : Notified.Alike [] [] Cached.Twin decorated.layered plain.layered
  listeners : decorated.listeners = plain.listeners

theorem Twin.submitted {decorated plain : Collection E N} (twin : Twin decorated plain) :
    decorated.layered.submitted = plain.layered.submitted := by
  obtain ⟨⟨notices, left, right⟩, _⟩ := twin.layered
  exact left.trans right.symm

/-- A change that neither a twin nor a listener can notice. -/
structure Idle (before after : Collection E N) : Prop where
  layers : after.layers = before.layers
  submitted : after.layered.submitted = before.layered.submitted
  below : Cached.Idle before.layered.below after.layered.below
  listeners : after.listeners = before.listeners

theorem Idle.refl (collection : Collection E N) : Idle collection collection :=
  ⟨rfl, rfl, ⟨fun _ twin => twin, fun _ twin => twin⟩, rfl⟩

theorem Idle.trans {first second third : Collection E N} (early : Idle first second)
    (late : Idle second third) : Idle first third where
  layers := late.layers.trans early.layers
  submitted := late.submitted.trans early.submitted
  below := ⟨fun plain twin => late.below.decorated plain (early.below.decorated plain twin),
    fun decorated twin => late.below.plain decorated (early.below.plain decorated twin)⟩
  listeners := late.listeners.trans early.listeners

theorem Twin.idle {decorated plain decorated' plain' : Collection E N} (twin : Twin decorated plain)
    (left : Idle decorated decorated') (right : Idle plain plain') : Twin decorated' plain' where
  layers := left.layers.trans twin.layers
  plainLayers := right.layers.trans twin.plainLayers
  layered := by
    obtain ⟨⟨notices, submitted, submitted'⟩, below⟩ := twin.layered
    refine ⟨⟨notices, left.submitted.trans submitted, right.submitted.trans submitted'⟩, ?_⟩
    exact right.below.plain _ (left.below.decorated _ below)
  listeners := (left.listeners.trans twin.listeners).trans right.listeners.symm

/-! ### Refreshes, sweeps, starts and stops -/

section Background

variable {α β : Type}

/-- An action that no twin and no listener can notice. -/
def Unnoticed (action : Act (Collection E N) α) : Prop :=
  ∀ moment collection, Idle collection (action.perform moment collection).2

theorem Unnoticed.bind {action : Act (Collection E N) α} {next : α → Act (Collection E N) β}
    (first : Unnoticed action) (rest : ∀ value, Unnoticed (next value)) :
    Unnoticed (action >>= next) := by
  intro moment collection
  rw [perform_bind]
  cases (action.perform moment collection).1 with
  | ok value => exact (first moment collection).trans (rest value moment _)
  | error fault => exact first moment collection

theorem unnoticed_pure (value : α) : Unnoticed (E := E) (N := N) (pure value) :=
  fun _ collection => Idle.refl collection

/-- What concerns only the workers is not noticed. -/
theorem idle_workers (collection : Collection E N) (refresher : Option Refresher)
    (sweeper : Option Periodic) : Idle collection { collection with refresher, sweeper } :=
  ⟨rfl, rfl, ⟨fun _ twin => twin, fun _ twin => twin⟩, rfl⟩

theorem unnoticed_tally (change : RefreshStats → RefreshStats) :
    Unnoticed (E := E) (N := N) (tally change) :=
  fun _ collection => idle_workers collection _ collection.sweeper

theorem unnoticed_turnRefresher (turn : Nat → Periodic → Bool × Periodic) :
    Unnoticed (E := E) (N := N) (turnRefresher turn) := by
  refine Unnoticed.bind (fun _ collection => Idle.refl collection) fun clock moment collection => ?_
  rw [perform_modifyGet]
  dsimp only
  split
  · exact Idle.refl collection
  · exact idle_workers _ _ _

theorem unnoticed_turnSweeper (turn : Nat → Periodic → Bool × Periodic) :
    Unnoticed (E := E) (N := N) (turnSweeper turn) := by
  refine Unnoticed.bind (fun _ collection => Idle.refl collection) fun clock moment collection => ?_
  rw [perform_modifyGet]
  dsimp only
  split
  · exact Idle.refl collection
  · exact idle_workers _ _ _

theorem unnoticed_startAll : Unnoticed (E := E) (N := N) startAll :=
  (unnoticed_turnRefresher started).bind fun _ =>
    (unnoticed_turnSweeper started).bind fun _ => unnoticed_pure _

theorem unnoticed_stopAll : Unnoticed (E := E) (N := N) stopAll :=
  (unnoticed_turnRefresher stopped).bind fun _ =>
    (unnoticed_turnSweeper stopped).bind fun _ => unnoticed_pure _

theorem unnoticed_refresh : Unnoticed (E := E) (N := N) refresh := by
  have reloaded : Unnoticed (E := E) (N := N)
      (onLayered (Layered.belowNotices (Caching.reload Backend.handle))).attempt :=
    fun moment collection => ⟨rfl, rfl, Cached.idle_reload moment collection.layered.below, rfl⟩
  refine reloaded.bind fun outcome => ?_
  cases outcome with
  | ok loaded =>
    refine Unnoticed.bind (fun _ collection => Idle.refl collection) fun now => ?_
    exact (unnoticed_tally _).bind fun _ => unnoticed_pure _
  | error fault =>
    exact (unnoticed_tally _).bind fun _ _ collection => Idle.refl collection

theorem unnoticed_sweep : Unnoticed (E := E) (N := N) sweep :=
  fun moment _ => ⟨rfl, rfl, Cached.idle_drop (Cache.within_sweep _ moment.clock), rfl⟩

theorem unnoticed_clear : Unnoticed (E := E) (N := N)
    (onLayered (Layered.belowNotices (Cached.change fun _ cache => cache.clear))) :=
  fun _ _ => ⟨rfl, rfl, Cached.idle_drop (Cache.within_clear _), rfl⟩

/-- A refresh of an online store succeeds. -/
theorem refresh_of_online {moment : Moment} {collection : Collection E N}
    (online : collection.layered.backend.online = true) :
    (refresh.perform moment collection).1 =
      .ok collection.layered.backend.store.toList.length := by
  have loaded : ((onLayered (Layered.belowNotices (Caching.reload Backend.handle))).perform moment
      collection).1 = .ok collection.layered.backend.store.toList.length := by
    rcases Caching.reload_cases moment collection.layered.below with ⟨_, loaded⟩ | ⟨offline, _⟩
    · exact congrArg Prod.fst loaded
    · cases online.symm.trans offline
  unfold refresh
  rw [perform_bind, perform_attempt]
  dsimp only
  rw [loaded]
  rfl

end Background

/-! ### What is due -/

section Due

variable (moment : Moment) (collection : Collection E N)

theorem idle_repeatedly {α : Type} {action : Act (Collection E N) α} (unnoticed : Unnoticed action)
    (times : Nat) : Idle collection (repeatedly action times moment collection) := by
  unfold repeatedly
  exact repeat_keeps (Idle collection) (fun state idle => idle.trans (unnoticed moment state))
    (Idle.refl collection) times

theorem idle_runRefresher : Idle collection (collection.runRefresher moment) := by
  unfold runRefresher
  split
  · exact Idle.refl collection
  · exact (idle_workers collection _ collection.sweeper).trans
      (idle_repeatedly moment _ unnoticed_refresh _)

theorem idle_runSweeper : Idle collection (collection.runSweeper moment) := by
  unfold runSweeper
  split
  · exact Idle.refl collection
  · exact (idle_workers collection collection.refresher _).trans
      (idle_repeatedly moment _ unnoticed_sweep _)

/-- **Everything that is due goes unnoticed.** -/
theorem idle_run : Idle collection (collection.run moment) :=
  (idle_runRefresher moment collection).trans (idle_runSweeper moment _)

end Due

end Collection

end Switchboard

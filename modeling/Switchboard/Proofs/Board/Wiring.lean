/-
**What a board is wired to.**

* `Collection.Wired refreshing` — a collection has all layers and a store that is keyed, and it has a refresher
  exactly if `refreshing` says so. Every action on a collection keeps this, and so does what happens in the
  background (`Collection.wired_handle`, `Collection.wired_run`).
* `Board.Wired` — the same of both collections of a board. It is kept by every operation, and so by every run of
  steps (`Board.wired_handle`, `Board.wired_step`, `Board.wired_runSteps`).
* `Blueprint.wired_build` — the board of a blueprint with caches is wired as its settings say.
-/

import Switchboard.Proofs.Board.Lasting
import Switchboard.Proofs.Board.Transparency
import Switchboard.Proofs.Notices.Log

namespace Switchboard

open Act

/-! ### Collections -/

namespace Collection

section Wired

variable {E N α : Type} [Entity E] {refreshing : Bool}

/-- A collection in all layers over a keyed store, with or without a refresher. -/
structure Wired (refreshing : Bool) (collection : Collection E N) : Prop where
  layers : collection.layers = Layered.allLayers
  refresher : collection.refresher.isSome = refreshing
  keyed : collection.layered.backend.store.Keyed

/-- What concerns only the workers and the listeners changes nothing of it. -/
theorem Wired.workers {collection : Collection E N} (wired : Wired refreshing collection)
    {refresher : Option Refresher} (same : refresher.isSome = collection.refresher.isSome)
    (sweeper : Option Periodic) (listeners : Listeners) :
    Wired refreshing { collection with refresher, sweeper, listeners } :=
  ⟨wired.layers, same.trans wired.refresher, wired.keyed⟩

theorem wired_onLayered {action : Act (Layered E N) α}
    (keeps : Keeps (fun layered => layered.backend.store.Keyed) action) :
    Keeps (Wired refreshing) (onLayered action) :=
  keeps.onPart (fun _ wired => wired.keyed) fun _ _ wired keyed =>
    ⟨wired.layers, wired.refresher, keyed⟩

/-- A change of the cache does not reach the store. -/
theorem keyed_change (change : Nat → Cache E → Cache E) :
    Keeps (fun layered : Layered E N => layered.backend.store.Keyed)
      (Layered.belowNotices (Cached.change change)) :=
  fun _ _ keyed => keyed

theorem keyed_reload : Keeps (fun layered : Layered E N => layered.backend.store.Keyed)
    (Layered.belowNotices (Caching.reload Backend.handle)) := by
  intro moment layered keyed
  show ((Caching.reload Backend.handle).perform moment layered.below).2.below.store.Keyed
  rw [Caching.below_reload, Backend.store_counted]
  exact keyed

/-! ### Refreshes, sweeps, starts and stops -/

theorem wired_tally (change : RefreshStats → RefreshStats) :
    Keeps (Wired (E := E) (N := N) refreshing) (tally change) := by
  intro moment collection wired
  have same : (collection.refresher.map fun refresher =>
      { refresher with stats := change refresher.stats }).isSome = collection.refresher.isSome :=
    Option.isSome_map
  exact wired.workers same collection.sweeper collection.listeners

theorem wired_refresh : Keeps (Wired (E := E) (N := N) refreshing) refresh := by
  have reloaded : Keeps (Wired (E := E) (N := N) refreshing)
      (onLayered (Layered.belowNotices (Caching.reload Backend.handle))).attempt :=
    (wired_onLayered keyed_reload).attempt
  refine reloaded.bind fun outcome => ?_
  cases outcome with
  | ok loaded =>
    refine Keeps.bind (fun _ _ wired => wired) fun now => ?_
    exact (wired_tally _).bind fun _ => .pure _
  | error fault => exact (wired_tally _).bind fun _ _ _ wired => wired

theorem wired_sweep : Keeps (Wired (E := E) (N := N) refreshing) sweep :=
  wired_onLayered (keyed_change _)

theorem wired_turnRefresher (turn : Nat → Periodic → Bool × Periodic) :
    Keeps (Wired (E := E) (N := N) refreshing) (turnRefresher turn) := by
  refine Keeps.bind (fun _ _ wired => wired) fun clock moment collection wired => ?_
  rw [perform_modifyGet]
  dsimp only
  split
  · exact wired
  next refresher present =>
    refine wired.workers ?_ collection.sweeper collection.listeners
    rw [present]
    rfl

theorem wired_turnSweeper (turn : Nat → Periodic → Bool × Periodic) :
    Keeps (Wired (E := E) (N := N) refreshing) (turnSweeper turn) := by
  refine Keeps.bind (fun _ _ wired => wired) fun clock moment collection wired => ?_
  rw [perform_modifyGet]
  dsimp only
  split
  · exact wired
  · exact wired.workers rfl _ collection.listeners

theorem wired_startAll : Keeps (Wired (E := E) (N := N) refreshing) startAll :=
  (wired_turnRefresher started).bind fun _ => (wired_turnSweeper started).bind fun _ => .pure _

theorem wired_stopAll : Keeps (Wired (E := E) (N := N) refreshing) stopAll :=
  (wired_turnRefresher stopped).bind fun _ => (wired_turnSweeper stopped).bind fun _ => .pure _

/-! ### Calls, and what is due -/

/-- **Every call of a collection keeps it wired.** -/
theorem wired_handle {C : Type} {Reply : C → Type} {layered : Layers → Handler Reply (Layered E N)}
    {plain : Handler Reply (Backend E)}
    (above : ∀ call, Keeps (fun layered => layered.backend.store.Keyed)
      (layered Layered.allLayers call))
    (below : ∀ call, Keeps (fun backend => backend.store.Keyed) (plain call)) (call : CollectionCall C) :
    Keeps (Wired refreshing) (handle layered plain call) := by
  cases call with
  | call call =>
    refine Keeps.get_bind fun moment collection wired => ?_
    dsimp only
    rw [wired.layers]
    exact wired_onLayered (above call) moment collection wired
  | direct call => exact wired_onLayered fun moment layered keyed => below call moment _ keyed
  | setOnline online => exact wired_onLayered fun _ _ keyed => keyed
  | register name listener =>
    exact fun _ collection wired => wired.workers rfl collection.sweeper _
  | unregister name => exact fun _ collection wired => wired.workers rfl collection.sweeper _
  | clearCache => exact wired_onLayered (keyed_change _)
  | refresh => exact wired_refresh
  | startRefreshing => exact wired_turnRefresher started
  | stopRefreshing => exact wired_turnRefresher stopped
  | startSweeping => exact wired_turnSweeper started
  | stopSweeping => exact wired_turnSweeper stopped

theorem wired_repeatedly {action : Act (Collection E N) α} (keeps : Keeps (Wired refreshing) action)
    (times : Nat) (moment : Moment) {collection : Collection E N} (wired : Wired refreshing collection) :
    Wired refreshing (repeatedly action times moment collection) :=
  repeat_keeps (Wired refreshing) (fun state => keeps moment state) wired times

/-- **What is due keeps a collection wired.** -/
theorem wired_run (moment : Moment) {collection : Collection E N} (wired : Wired refreshing collection) :
    Wired refreshing (collection.run moment) := by
  have refreshed : Wired refreshing (collection.runRefresher moment) := by
    unfold runRefresher
    split
    · exact wired
    next refresher present =>
      refine wired_repeatedly wired_refresh _ moment ?_
      refine wired.workers ?_ collection.sweeper collection.listeners
      rw [present]
      rfl
  unfold run runSweeper
  split
  · exact refreshed
  · exact wired_repeatedly wired_sweep _ moment (refreshed.workers rfl _ _)

end Wired

end Collection

/-! ### Boards -/

namespace Board

variable {α : Type} {refreshing : Bool} {board : Board} {wall : Nat → Time.Instant} {now : Nat}

/-- Both collections of a board are wired. -/
structure Wired (refreshing : Bool) (board : Board) : Prop where
  features : Collection.Wired refreshing board.features
  properties : Collection.Wired refreshing board.properties

theorem wired_onFeatures {action : Act (Collection Feature FeatureNotice) α}
    (keeps : Keeps (Collection.Wired refreshing) action) :
    Keeps (Wired refreshing) (onFeatures action) :=
  keeps.onPart (fun _ wired => wired.features) fun _ _ wired changed => ⟨changed, wired.properties⟩

theorem wired_onProperties {action : Act (Collection Property PropertyNotice) α}
    (keeps : Keeps (Collection.Wired refreshing) action) :
    Keeps (Wired refreshing) (onProperties action) :=
  keeps.onPart (fun _ wired => wired.properties) fun _ _ wired changed => ⟨wired.features, changed⟩

theorem wired_featureCalls (call : CollectionCall FeatureCall) :
    Keeps (Collection.Wired refreshing) (featureCalls call) :=
  Collection.wired_handle
    (fun call moment layered keyed => (Layered.told_features call moment layered keyed).1)
    (fun call moment backend keyed => Backend.features_orderly.keyed call moment backend keyed) call

theorem wired_propertyCalls (call : CollectionCall PropertyCall) :
    Keeps (Collection.Wired refreshing) (propertyCalls call) :=
  Collection.wired_handle
    (fun call moment layered keyed => (Layered.told_properties call moment layered keyed).1)
    (fun call moment backend keyed => Backend.properties_orderly.keyed call moment backend keyed) call

/-- An operation on features, made at the top of a wired board. -/
theorem wired_onFeatureRepository (operation : FeatureOperation)
    {action : FeatureHandler (Layered Feature FeatureNotice) →
      Act (Layered Feature FeatureNotice) operation.Reply}
    (made : action (Layered.features Layered.allLayers) = operation.handle) :
    Keeps (Wired refreshing) (onFeatureRepository action) := by
  refine Keeps.get_bind fun moment board wired => ?_
  dsimp only
  rw [wired.features.layers, made]
  refine wired_onFeatures (Collection.wired_onLayered ?_) moment board wired
  exact fun moment layered keyed => (Layered.told_operation operation moment layered keyed).1

theorem wired_refreshCaches : Keeps (Wired refreshing) refreshCaches := by
  have properties : Keeps (Wired refreshing) refreshProperties := by
    refine Keeps.get_bind fun moment board wired => ?_
    split
    · exact (wired_onProperties Collection.wired_refresh).bind (fun _ => .pure _) moment board wired
    · exact wired
  refine Keeps.get_bind fun moment board wired => ?_
  split
  · exact (wired_onFeatures Collection.wired_refresh).bind (fun _ => properties) moment board wired
  · exact properties moment board wired

/-- **Every operation keeps a board wired.** -/
theorem wired_handle (operation : Operation) : Keeps (Wired refreshing) (handle operation) := by
  cases operation with
  | features call => exact wired_onFeatures (wired_featureCalls call)
  | properties call => exact wired_onProperties (wired_propertyCalls call)
  | evaluate id context override =>
    refine Keeps.get_bind fun moment board wired => ?_
    exact wired_onFeatureRepository
      (.evaluate board.evaluator id (board.defaults.merged context) override) rfl moment board wired
  | checkAll context =>
    refine Keeps.get_bind fun moment board wired => ?_
    exact wired_onFeatureRepository (.checkAll board.evaluator (board.defaults.merged context)) rfl
      moment board wired
  | secured principal call => exact wired_onFeatureRepository (.secured principal call) rfl
  | prepare =>
    exact (wired_onFeatures (wired_featureCalls _)).bind fun _ =>
      wired_onProperties (wired_propertyCalls _)
  | setDefaults context => exact fun _ _ wired => ⟨wired.features, wired.properties⟩
  | refreshCaches => exact wired_refreshCaches
  | resetUsage => exact fun _ _ wired => ⟨wired.features, wired.properties⟩

/-! ### Steps -/

theorem Wired.deliver (wired : Wired refreshing board) : Wired refreshing board.deliver :=
  ⟨⟨wired.features.layers, wired.features.refresher, wired.features.keyed⟩,
    ⟨wired.properties.layers, wired.properties.refresher, wired.properties.keyed⟩⟩

theorem wired_stopAll (moment : Moment) (wired : Wired refreshing board) :
    Wired refreshing (board.stopAll moment) :=
  (wired_onFeatures Collection.wired_stopAll).bind
    (fun _ => wired_onProperties Collection.wired_stopAll) moment board wired

theorem lasting_wired : Lasting (Wired refreshing) where
  run moment _ wired :=
    ⟨Collection.wired_run moment wired.features, Collection.wired_run moment wired.properties⟩
  close wired := ⟨wired.features, wired.properties⟩
  stop moment _ wired :=
    ⟨(wired_stopAll moment wired).features, (wired_stopAll moment wired).properties⟩

/-- **Every step keeps a board wired.** -/
theorem wired_step (wired : Wired refreshing board) (next : BoardStep) :
    Wired refreshing (board.step wall now next).2.2 :=
  lasting_wired.step wired fun asked _ => (wired_handle asked _ _ wired).deliver

theorem wired_runSteps (wired : Wired refreshing board) (steps : List BoardStep) :
    Wired refreshing (runSteps wall (now, board) steps).2 :=
  runSteps_keeps (Wired refreshing) (fun _ _ next _ wired => wired_step wired next) wired

end Board

/-! ### Blueprints -/

namespace Blueprint

theorem wired_collection {E N : Type} [Entity E] {settings : Settings} {store : Store E}
    (keyed : store.Keyed) (caching : settings.cache.enabled = true) (ties : Nat → Nat) (listeners : Listeners) :
    Collection.Wired settings.refresh.enabled (collection (N := N) settings store ties listeners) where
  layers := congrArg (Layers.mk · true) caching
  refresher := by
    unfold collection
    dsimp only
    rw [caching, Bool.true_and]
    cases settings.refresh.enabled <;> rfl
  keyed := keyed

/-- **The board of a blueprint with caches is wired as its settings say.** -/
theorem wired_build {blueprint : Blueprint} (keyedFeatures : blueprint.features.Keyed)
    (keyedProperties : blueprint.properties.Keyed)
    (caching : blueprint.settings.cache.enabled = true) (moment : Moment) :
    Board.Wired blueprint.settings.refresh.enabled (blueprint.build moment) := by
  have wired : Board.Wired blueprint.settings.refresh.enabled blueprint.board :=
    ⟨wired_collection keyedFeatures caching _ _, wired_collection keyedProperties caching _ _⟩
  exact (Board.wired_onFeatures Collection.wired_startAll).bind
    (fun _ => Board.wired_onProperties Collection.wired_startAll) moment _ wired

end Blueprint

end Switchboard

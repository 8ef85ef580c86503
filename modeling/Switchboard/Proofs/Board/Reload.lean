/-
**A reload of the caches of a board.**

* `Collection.Coherent` — no call can tell the cache of a collection from no cache: the store is online and keyed,
  and every entry holds what the store holds. A refresh that succeeds leaves a collection coherent
  (`Collection.coherent_refresh`), and what happens in the background keeps it so (`Collection.Coherent.idle`).
* `Board.Reloaded` — what is seen of a board with coherent caches: entries that are alive, single reads, and every
  operation.
* `Blueprint.refresh_reloads` — where there are refreshers, a refresh of the caches that succeeds reloads them; where
  there are none, it succeeds and changes nothing. `Blueprint.refresh_leaves_stale_entry` — so a stale entry can
  outlive it.
-/

import Switchboard.Proofs.Board.Wiring

namespace Switchboard

open Act

/-! ### Collections -/

namespace Collection

variable {E N : Type} [Entity E] {refreshing : Bool} {moment : Moment} {collection : Collection E N}

/-- The collection with calls that bypass its cache. -/
def uncached (collection : Collection E N) : Collection E N :=
  { collection with layers := { cached := false, notifying := true } }

/-- A collection in all layers whose cache cannot be told from no cache. -/
structure Coherent (collection : Collection E N) : Prop where
  layers : collection.layers = Layered.allLayers
  below : Cached.Twin collection.layered.below collection.layered.below

theorem Coherent.twin (coherent : Coherent collection) : Twin collection collection.uncached where
  layers := coherent.layers
  plainLayers := rfl
  layered := ⟨⟨collection.layered.submitted, rfl, rfl⟩, coherent.below⟩
  listeners := rfl

/-- **What goes unnoticed leaves a collection coherent.** -/
theorem Coherent.idle {after : Collection E N} (coherent : Coherent collection)
    (idle : Idle collection after) : Coherent after where
  layers := idle.layers.trans coherent.layers
  below := idle.below.plain _ (idle.below.decorated _ coherent.below)

/-- A reload that succeeds leaves a cache that cannot be told from none. -/
theorem twin_of_reload {cached : Cached E (Backend E)} {loaded : Nat} (keyed : cached.below.store.Keyed)
    (succeeds : ((Caching.reload Backend.handle).perform moment cached).1 = .ok loaded) :
    Cached.Twin ((Caching.reload Backend.handle).perform moment cached).2
      ((Caching.reload Backend.handle).perform moment cached).2 := by
  have online : cached.below.online = true := by
    rcases Caching.reload_cases moment cached with ⟨online, _⟩ | ⟨_, refused⟩
    · exact online
    · rw [refused] at succeeds
      cases succeeds
  have store : ((Caching.reload Backend.handle).perform moment cached).2.below.store =
      cached.below.store := by
    rw [Caching.below_reload, Backend.store_counted]
  have stays : ((Caching.reload Backend.handle).perform moment cached).2.below.online = true := by
    rw [Caching.below_reload, Backend.online_counted]
    exact online
  refine ⟨rfl, stays, stays, by rw [store]; exact keyed, ?_⟩
  intro id entry held
  rw [store]
  rcases Caching.entry_of_reload keyed held with ⟨_, refused⟩ | ⟨_, _, stored⟩
  · exact absurd ⟨loaded, succeeds⟩ refused
  · exact stored

/-- A call of a collection in all layers. -/
theorem perform_call {C : Type} {Reply : C → Type} {layered : Layers → Handler Reply (Layered E N)}
    {plain : Handler Reply (Backend E)} (layers : collection.layers = Layered.allLayers) (call : C) :
    ((handle layered plain (.call call)).perform moment collection).1 =
      ((layered Layered.allLayers call).perform moment collection.layered).1 := by
  unfold handle
  rw [perform_bind_ok rfl, perform_get, layers]
  rfl

/-- **A refresh that succeeds leaves a collection coherent.** -/
theorem coherent_refresh (wired : Wired refreshing collection) {loaded : Nat}
    (succeeds : (refresh.perform moment collection).1 = .ok loaded) :
    Coherent (refresh.perform moment collection).2 := by
  unfold refresh at succeeds ⊢
  rw [perform_bind, perform_attempt] at succeeds ⊢
  dsimp only at succeeds ⊢
  cases outcome : ((onLayered (Layered.belowNotices (Caching.reload Backend.handle))).perform moment
      collection).1 with
  | ok others => exact ⟨wired.layers, twin_of_reload wired.keyed outcome⟩
  | error fault =>
    rw [outcome] at succeeds
    cases succeeds

end Collection

/-! ### Boards -/

namespace Board

variable {refreshing : Bool} {moment : Moment} {board : Board}

/-- The board with calls that bypass its caches. -/
def uncached (board : Board) : Board :=
  { board with features := board.features.uncached, properties := board.properties.uncached }

/-- Both caches of a board cannot be told from no caches. -/
structure Coherent (board : Board) : Prop where
  features : Collection.Coherent board.features
  properties : Collection.Coherent board.properties

theorem Coherent.twin (coherent : Coherent board) : Twin board board.uncached :=
  ⟨coherent.features.twin, coherent.properties.twin, rfl, rfl, rfl, rfl⟩

theorem Coherent.deliver (coherent : Coherent board) : Coherent board.deliver :=
  ⟨⟨coherent.features.layers, coherent.features.below⟩,
    ⟨coherent.properties.layers, coherent.properties.below⟩⟩

theorem Coherent.run (coherent : Coherent board) (moment : Moment) : Coherent (board.run moment) :=
  ⟨coherent.features.idle (Collection.idle_run moment _), coherent.properties.idle (Collection.idle_run moment _)⟩

theorem refreshProperties_of_wired (wired : Wired true board)
    (succeeds : (refreshProperties.perform moment board).1 = .ok ()) :
    (refreshProperties.perform moment board).2.features = board.features ∧
      Collection.Coherent (refreshProperties.perform moment board).2.properties := by
  unfold refreshProperties at succeeds ⊢
  rw [perform_bind, perform_get] at succeeds ⊢
  dsimp only at succeeds ⊢
  rw [if_pos wired.properties.refresher] at succeeds ⊢
  rw [perform_bind] at succeeds ⊢
  cases outcome : ((onProperties Collection.refresh).perform moment board).1 with
  | ok loaded => exact ⟨rfl, Collection.coherent_refresh wired.properties outcome⟩
  | error fault =>
    rw [outcome] at succeeds
    cases succeeds

/-- **A refresh of the caches that succeeds leaves a board with refreshers coherent.** -/
theorem coherent_refreshCaches (wired : Wired true board)
    (succeeds : (refreshCaches.perform moment board).1 = .ok ()) :
    Coherent (refreshCaches.perform moment board).2 := by
  have halves : refreshCaches.perform moment board =
      (do let _ ← onFeatures Collection.refresh; refreshProperties : Act Board Unit).perform moment
        board := by
    unfold refreshCaches
    rw [perform_bind, perform_get]
    dsimp only
    rw [if_pos wired.features.refresher]
    rfl
  rw [halves, perform_bind] at succeeds ⊢
  cases outcome : ((onFeatures Collection.refresh).perform moment board).1 with
  | ok loaded =>
    rw [outcome] at succeeds
    have first := Collection.coherent_refresh wired.features outcome
    obtain ⟨kept, second⟩ := refreshProperties_of_wired
      (wired_onFeatures Collection.wired_refresh moment board wired) succeeds
    refine ⟨?_, second⟩
    dsimp only
    rw [kept]
    exact first
  | error fault =>
    rw [outcome] at succeeds
    cases succeeds

/-- A board without refreshers is not changed by a refresh of its caches, which succeeds. -/
theorem refreshCaches_of_unwired (wired : Wired false board) (moment : Moment) :
    refreshCaches.perform moment board = (.ok (), board) := by
  have features : ¬board.features.refresher.isSome = true := by
    rw [wired.features.refresher]
    exact Bool.false_ne_true
  have properties : ¬board.properties.refresher.isSome = true := by
    rw [wired.properties.refresher]
    exact Bool.false_ne_true
  unfold refreshCaches
  rw [perform_bind, perform_get]
  dsimp only
  rw [if_neg features, perform_bind, perform_get]
  dsimp only
  rw [if_neg properties, perform_pure]

/-- What is seen of a board whose caches were reloaded: an entry that is alive holds what the store holds, a
single read answers what the store holds, and every operation that stays above the stores is answered as on the
same board without its caches. -/
structure Reloaded (moment : Moment) (board : Board) : Prop where
  liveFeatures : ∀ (id : String) entry,
    (board.features.layered.cache.live moment.clock)[id]? = some entry →
      board.features.layered.backend.store.find? id = some entry.value
  liveProperties : ∀ (id : String) entry,
    (board.properties.layered.cache.live moment.clock)[id]? = some entry →
      board.properties.layered.backend.store.find? id = some entry.value
  feature : ∀ id, (board.perform moment (.features (.call (.store (.find id))))).1 =
    .ok (board.features.layered.backend.store.find? id)
  property : ∀ id, (board.perform moment (.properties (.call (.store (.find id))))).1 =
    .ok (board.properties.layered.backend.store.find? id)
  operations : ∀ operation : Operation, operation.Through → ¬operation.Control →
    (board.perform moment operation).1 = (board.uncached.perform moment operation).1

theorem Coherent.reloaded (coherent : Coherent board) (moment : Moment) : Reloaded moment board where
  liveFeatures id entry alive := coherent.features.below.coherent id entry (Cache.held_of_live alive)
  liveProperties id entry alive := coherent.properties.below.coherent id entry (Cache.held_of_live alive)
  feature id := by
    have asked : ((featureCalls (.call (.store (.find id)))).perform moment board.features).1 =
        ((Caching.find Backend.handle id).perform moment board.features.layered.below).1 :=
      Collection.perform_call coherent.features.layers _
    exact asked.trans (Caching.find_of_twin coherent.features.below)
  property id := by
    have asked : ((propertyCalls (.call (.store (.find id)))).perform moment board.properties).1 =
        ((Caching.find Backend.handle id).perform moment board.properties.layered.below).1 :=
      Collection.perform_call coherent.properties.layers _
    exact asked.trans (Caching.find_of_twin coherent.properties.below)
  operations operation through answered := (handle_agree through answered moment _ _ coherent.twin).1

end Board

/-! ### Blueprints -/

namespace Blueprint

/-- **A refresh of the caches reloads them, where there are refreshers.** After any steps of a board with caches,
(1) if there are refreshers, a refresh of the caches that succeeds leaves them reloaded, also when everything due has
happened, and it succeeds if the stores are online; (2) if there are none, it succeeds and changes nothing. -/
theorem refresh_reloads {blueprint : Blueprint} (keyedFeatures : blueprint.features.Keyed)
    (keyedProperties : blueprint.properties.Keyed) (caching : blueprint.settings.cache.enabled = true)
    (wall : Nat → Time.Instant) (now : Nat) (steps : List BoardStep) :
    let reached := Board.runSteps wall (now, blueprint.build ⟨now, wall now⟩) steps
    let moment : Moment := ⟨reached.1, wall reached.1⟩
    let refreshed := reached.2.perform moment .refreshCaches
    (blueprint.settings.refresh.enabled = true →
      (refreshed.1 = .ok () →
        Board.Reloaded moment refreshed.2 ∧ Board.Reloaded moment (refreshed.2.run moment)) ∧
      (reached.2.features.layered.backend.online = true →
        reached.2.properties.layered.backend.online = true → refreshed.1 = .ok ())) ∧
    (blueprint.settings.refresh.enabled = false →
      (Board.handle .refreshCaches).perform moment reached.2 = (.ok (), reached.2)) := by
  intro reached moment refreshed
  have wired : Board.Wired blueprint.settings.refresh.enabled reached.2 :=
    Board.wired_runSteps (wired_build keyedFeatures keyedProperties caching _) steps
  refine ⟨fun refreshing => ⟨fun succeeds => ?_, fun online online' => ?_⟩, fun idle => ?_⟩
  · rw [refreshing] at wired
    have coherent := Board.coherent_refreshCaches wired succeeds
    exact ⟨coherent.deliver.reloaded moment, (coherent.deliver.run moment).reloaded moment⟩
  · exact (Board.refreshCaches_of_online moment online online').1
  · rw [idle] at wired
    exact Board.refreshCaches_of_unwired wired moment

/-- The settings of a small board with caches that keep an entry for a minute. -/
def cachingSettings (refreshing : Bool) : Settings where
  cache := ⟨true, 60000, 10, 0⟩
  refresh := ⟨refreshing, 1000, 1000⟩
  notifier := ⟨1, 8, 100⟩
  evaluator := ⟨false, false⟩
  logging := ⟨"info", false⟩

/-- A board with a lamp. -/
def lampBoard (refreshing : Bool) : Blueprint where
  settings := cachingSettings refreshing
  features := Store.empty.insert (Feature.new "lamp" .epoch)

/-- The lamp is read, so that the cache keeps it, and then taken from the store past the cache. -/
def lampTaken : List BoardStep :=
  [.operation (.features (.call (.store (.find "lamp")))),
    .operation (.features (.direct (.store (.delete "lamp"))))]

/-- A board with refreshers forgets the lamp. -/
theorem refresh_reloads_lamp :
    let reached := Board.runSteps (fun _ => .epoch) (0, (lampBoard true).build ⟨0, .epoch⟩) lampTaken
    let moment : Moment := ⟨0, .epoch⟩
    let refreshed := reached.2.perform moment .refreshCaches
    (lampBoard true).features.Keyed ∧ (lampBoard true).properties.Keyed ∧
      (lampBoard true).settings.cache.enabled = true ∧ refreshed.1 = .ok () ∧
      Board.Reloaded moment refreshed.2 ∧
      (refreshed.2.perform moment (.features (.call (.store (.find "lamp"))))).1 = .ok none := by
  intro reached moment refreshed
  have keyedFeatures : (lampBoard true).features.Keyed := Store.keyed_empty.insert _
  have keyedProperties : (lampBoard true).properties.Keyed := Store.keyed_empty
  obtain ⟨refreshing, _⟩ := refresh_reloads keyedFeatures keyedProperties rfl (fun _ => .epoch) 0 lampTaken
  obtain ⟨reloads, succeeds⟩ := refreshing rfl
  have succeeded : refreshed.1 = .ok () := succeeds (by decide +kernel) (by decide +kernel)
  have reloaded : Board.Reloaded moment refreshed.2 := (reloads succeeded).1
  have gone : refreshed.2.features.layered.backend.store.find? "lamp" = none := by decide +kernel
  refine ⟨keyedFeatures, keyedProperties, rfl, succeeded, reloaded, ?_⟩
  exact (reloaded.feature "lamp").trans (congrArg Except.ok gone)

/-- **Without refreshers a refresh of the caches leaves them as they are.** The lamp is taken from its store and the
caches are refreshed, which succeeds; it is still found in the cache, and the store has none. -/
theorem refresh_leaves_stale_entry :
    let reached := Board.runSteps (fun _ => .epoch) (0, (lampBoard false).build ⟨0, .epoch⟩) lampTaken
    let moment : Moment := ⟨0, .epoch⟩
    let refreshed := reached.2.perform moment .refreshCaches
    refreshed.1 = .ok () ∧
      (refreshed.2.features.layered.cache.live 0)["lamp"]? =
        some ⟨Feature.new "lamp" .epoch, 0, 60000⟩ ∧
      refreshed.2.features.layered.backend.store.find? "lamp" = none ∧
      (refreshed.2.perform moment (.features (.call (.store (.find "lamp"))))).1 =
        .ok (some (Feature.new "lamp" .epoch)) := by
  refine ⟨rfl, ?_, rfl, rfl⟩
  unfold Cache.live
  rw [Std.ExtTreeMap.getElem?_filter']
  rfl

end Blueprint

end Switchboard

/-
**Caches are transparent.**

Two boards are made of one blueprint, one with caches and one without; how the caches are kept, swept and
refreshed does not matter.

* `Blueprint.withCaches` — a blueprint with other settings of its caches.
* `Blueprint.build_twin` — the boards start as twins.
* `Blueprint.caches_are_transparent` — after any steps above the stores, the boards take the next step
  alike.
-/

import Switchboard.Board.Assembly
import Switchboard.Proofs.Board.Steps

namespace Switchboard

namespace Blueprint

/-- The blueprint with other settings of its caches and of their refreshing. -/
def withCaches (blueprint : Blueprint) (cache : CacheSettings) (refresh : RefreshSettings) : Blueprint :=
  { blueprint with settings := { blueprint.settings with cache, refresh } }

theorem collection_twin {E N : Type} [Entity E] {settings settings' : Settings} {store : Store E}
    (keyed : store.Keyed) (caching : settings.cache.enabled = true)
    (bypassing : settings'.cache.enabled = false) (ties : Nat → Nat) (listeners : Listeners) :
    Collection.Twin (collection (N := N) settings store ties listeners)
      (collection settings' store ties listeners) where
  layers := congrArg (Layers.mk · true) caching
  plainLayers := congrArg (Layers.mk · true) bypassing
  layered := by
    refine ⟨⟨[], rfl, rfl⟩, rfl, rfl, rfl, keyed, ?_⟩
    intro id entry held
    have absent : (∅ : Table (CacheEntry E))[id]? = some entry := held
    rw [Std.ExtTreeMap.getElem?_empty] at absent
    cases absent
  listeners := rfl

theorem startAll_twin (moment : Moment) {decorated plain : Board} (twin : Board.Twin decorated plain) :
    Board.Twin (decorated.startAll moment) (plain.startAll moment) := by
  have idle : ∀ board : Board, Board.Idle board (board.startAll moment) := by
    intro board
    exact (Board.idle_onFeatures Collection.unnoticed_startAll moment board).trans
      (Board.idle_onProperties Collection.unnoticed_startAll moment _)
  exact twin.idle (idle decorated) (idle plain)

section Build

variable {blueprint : Blueprint} {cache cache' : CacheSettings} (refresh refresh' : RefreshSettings)
  (keyedFeatures : blueprint.features.Keyed) (keyedProperties : blueprint.properties.Keyed)
  (caching : cache.enabled = true) (bypassing : cache'.enabled = false)

include keyedFeatures keyedProperties caching bypassing

theorem board_twin :
    Board.Twin (blueprint.withCaches cache refresh).board (blueprint.withCaches cache' refresh').board
    where
  features := collection_twin keyedFeatures caching bypassing _ _
  properties := collection_twin keyedProperties caching bypassing _ _
  desk := rfl
  evaluator := rfl
  defaults := rfl
  isClosed := rfl

/-- **The boards of a blueprint with and without caches start as twins.** -/
theorem build_twin (moment : Moment) :
    Board.Twin ((blueprint.withCaches cache refresh).build moment)
      ((blueprint.withCaches cache' refresh').build moment) :=
  startAll_twin moment (board_twin refresh refresh' keyedFeatures keyedProperties caching bypassing)

/-- **Caches are transparent.** After any steps that stay above the stores, boards with and without caches
take the next such step alike. -/
theorem caches_are_transparent (wall : Nat → Time.Instant) (now : Nat) (steps : List BoardStep)
    (next : BoardStep) (through : ∀ step ∈ steps ++ [next], step.Through) :
    let decorated :=
      Board.runSteps wall (now, (blueprint.withCaches cache refresh).build ⟨now, wall now⟩) steps
    let plain :=
      Board.runSteps wall (now, (blueprint.withCaches cache' refresh').build ⟨now, wall now⟩) steps
    decorated.1 = plain.1 ∧ Board.SameStep wall decorated.1 decorated.2 plain.2 next := by
  intro decorated plain
  have start := build_twin refresh refresh' keyedFeatures keyedProperties caching bypassing
    ⟨now, wall now⟩
  have earlier : ∀ step ∈ steps, step.Through :=
    fun step listed => through step (List.mem_append_left _ listed)
  obtain ⟨clock, twins⟩ : decorated.1 = plain.1 ∧ Board.Twin decorated.2 plain.2 :=
    Board.runSteps_twin start earlier
  have last := through next (List.mem_append_right _ List.mem_cons_self)
  exact ⟨clock, (Board.step_twin twins last).1⟩

end Build

/-- A lamp is read, refreshes and sweeps happen, it is switched on, and then checked. -/
theorem caches_are_transparent_for_lamp :
    let blueprint : Blueprint :=
      { settings :=
          { cache := ⟨true, 10, 1, 3⟩, refresh := ⟨true, 1, 2⟩, notifier := ⟨1, 8, 100⟩
            evaluator := ⟨true, true⟩, logging := ⟨"info", false⟩ }
        features := Store.empty.insert (Feature.new "lamp" .epoch) }
    let wall : Nat → Time.Instant := fun _ => .epoch
    let steps : List BoardStep :=
      [.operation (.features (.call (.store (.read "lamp")))), .advance 7,
        .operation (.features (.call (.setEnabled "lamp" true))), .settle]
    let next : BoardStep := .operation (.evaluate "lamp" .empty none)
    let decorated := Board.runSteps wall
      (0, (blueprint.withCaches ⟨true, 10, 1, 3⟩ ⟨true, 1, 2⟩).build ⟨0, wall 0⟩) steps
    let plain := Board.runSteps wall
      (0, (blueprint.withCaches ⟨false, 10, 1, 3⟩ ⟨false, 1, 2⟩).build ⟨0, wall 0⟩) steps
    blueprint.features.Keyed ∧ blueprint.properties.Keyed ∧ (∀ step ∈ steps ++ [next], step.Through) ∧
      decorated.1 = plain.1 ∧ Board.SameStep wall decorated.1 decorated.2 plain.2 next := by
  intro blueprint wall steps next decorated plain
  have keyedFeatures : blueprint.features.Keyed := Store.keyed_empty.insert _
  have keyedProperties : blueprint.properties.Keyed := Store.keyed_empty
  have through : ∀ step ∈ steps ++ [next], step.Through := by
    intro step listed
    simp only [steps, next, List.cons_append, List.nil_append, List.mem_cons, List.not_mem_nil,
      or_false] at listed
    rcases listed with rfl | rfl | rfl | rfl | rfl <;> trivial
  refine ⟨keyedFeatures, keyedProperties, through, ?_⟩
  exact caches_are_transparent _ _ keyedFeatures keyedProperties rfl rfl wall 0 steps next through

end Blueprint

end Switchboard

/-
**A board from settings.**

* `Blueprint.build` — the board of a blueprint, with what happens in the background started: usage is
  always counted, changes are audited if the settings say so, and a listener registered later under a
  name that is taken replaces the one before.
-/

import Switchboard.Board.Operation
import Switchboard.Settings.Layer

namespace Switchboard

/-- What a board is made of, with the choices that its caches make among their oldest entries. -/
structure Blueprint where
  settings : Settings
  features : Store Feature := {}
  properties : Store Property := {}
  featureTies : Nat → Nat := fun _ => 0
  propertyTies : Nat → Nat := fun _ => 0
  strategies : StrategyRegistry := {}
  sinks : List Sink := []
  featureListeners : List (String × Listener) := []
  propertyListeners : List (String × Listener) := []
  defaults : Context := .empty

namespace Blueprint

/-- The name of the counter of uses. -/
def usageListener : String := "usage-metrics"

/-- The name of the audit listener. -/
def auditListener : String := "audit"

/-- The audit listener under its name, if changes are audited; it writes to the log first. -/
def auditors (blueprint : Blueprint) : List (String × Listener) :=
  if blueprint.settings.evaluator.auditEnabled then
    [(auditListener, .audit { sinks := .log :: blueprint.sinks })]
  else []

/-- Listeners in a table: of those with one name the last. -/
def register (listeners : List (String × Listener)) : Listeners :=
  listeners.foldl (fun table (name, listener) => table.insert name listener) ∅

/-- A collection over a store. There is a refresher and a sweeper only where there is a cache. -/
def collection {E N : Type} (settings : Settings) (store : Store E) (ties : Nat → Nat)
    (listeners : Listeners) : Collection E N where
  layers := { cached := settings.cache.enabled, notifying := true }
  layered := Layered.new store settings.cache.lifetimeMillis.toNat settings.cache.maxEntries.toNat
    ties
  refresher :=
    if settings.cache.enabled && settings.refresh.enabled then
      some { worker :=
        Periodic.new settings.refresh.delayMillis.toNat settings.refresh.periodMillis.toNat }
    else none
  sweeper :=
    if settings.cache.enabled then
      settings.cache.sweepInterval?.map fun interval => Periodic.new interval interval
    else none
  listeners := listeners

/-- The dispatcher of the settings. -/
def dispatcher {P : Type} (settings : NotifierSettings) : Dispatcher P :=
  Dispatcher.new settings.workers.toNat settings.queueCapacity.toNat settings.timeoutMillis.toNat

/-- The board of a blueprint, before anything happens in the background. -/
def board (blueprint : Blueprint) : Board :=
  let settings := blueprint.settings
  let audits := blueprint.auditors
  let usage : String × Listener := (usageListener, .usage)
  { features := collection settings blueprint.features blueprint.featureTies
      (register (usage :: audits ++ blueprint.featureListeners))
    properties := collection settings blueprint.properties blueprint.propertyTies
      (register (audits ++ blueprint.propertyListeners))
    desk := { dispatcher := dispatcher settings.notifier }
    evaluator := { strategies := blueprint.strategies, autoCreate := settings.evaluator.autoCreate }
    defaults := blueprint.defaults }

/-- The board of a blueprint, with what happens in the background started. -/
def build (moment : Moment) (blueprint : Blueprint) : Board :=
  blueprint.board.startAll moment

end Blueprint

end Switchboard

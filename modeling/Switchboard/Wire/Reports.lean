/-
**Reports as JSON documents.**

* `CacheStats.toJson`, `DispatchStats.toJson`, `Usage.toJson`, `RefreshStats.toJson` — counters.
* `LogRecord.toJson` — a line of the audit log; what an event does not have is left out.
* `Settings.report` — settings with the lengths of time that follow from them.
-/

import Switchboard.Board.Collection
import Switchboard.Wire.Entities
import Switchboard.Wire.Settings

namespace Switchboard

open Json (ofString ofOption ofMembers ofTable ofNat)

/-- The counters of a cache. -/
def CacheStats.toJson (stats : CacheStats) : Json :=
  ofMembers
    [ ("hits", ofNat stats.hits),
      ("misses", ofNat stats.misses),
      ("inserts", ofNat stats.inserts),
      ("evictions", ofNat stats.evictions),
      ("expirations", ofNat stats.expirations) ]

/-- The counters of a dispatcher. -/
def DispatchStats.toJson (stats : DispatchStats) : Json :=
  ofMembers
    [ ("dispatched", ofNat stats.dispatched),
      ("completed", ofNat stats.completed),
      ("failed", ofNat stats.failed),
      ("timed_out", ofNat stats.timedOut),
      ("dropped", ofNat stats.dropped) ]

/-- How often features were found on. -/
def Usage.toJson (usage : Usage) : Json :=
  ofMembers [("hits", ofTable ofNat usage.counts), ("total", ofNat usage.total)]

/-- A refresher at work, with its counters; `instant` writes the time of its last success. -/
def Refresher.report (instant : Time.Instant → Json) (refresher : Refresher) : Json :=
  ofMembers
    [ ("running", .bool refresher.worker.isRunning),
      ("period_ms", ofNat refresher.worker.period),
      ("succeeded", ofNat refresher.stats.succeeded),
      ("failed", ofNat refresher.stats.failed),
      ("last_success_at", ofOption instant refresher.stats.lastSuccess) ]

/-- A member, unless there is nothing to write. -/
def presentMember {α : Type} (name : String) (encode : α → Json) (value : Option α) :
    List (String × Json) :=
  (value.map fun value => (name, encode value)).toList

/-- A line of the audit log, without the time and the identifier of its event. -/
def LogRecord.toJson (record : LogRecord) : Json :=
  let event := record.event
  ofMembers
    ([ ("level", ofString record.level.name),
       ("message", ofString record.message),
       ("action", ofString event.action.name),
       ("scope", ofString event.scope.name),
       ("source", ofString event.source),
       ("target_id", ofString event.target) ] ++
      presentMember "user" ofString event.user ++
      presentMember "duration_ms" Json.ofUInt64 event.durationMillis ++
      presentMember "value" ofString event.value)

/-- The lengths of time that follow from settings. -/
def Settings.lengths (settings : Settings) : Json :=
  ofMembers
    [ ("default_ttl", .ofUInt64 settings.cache.lifetimeMillis),
      ("sweep_interval", ofOption ofNat settings.cache.sweepInterval?),
      ("initial_delay", .ofUInt64 settings.refresh.delayMillis),
      ("period", .ofUInt64 settings.refresh.periodMillis),
      ("task_timeout", .ofUInt64 settings.notifier.timeoutMillis) ]

/-- Settings with the lengths of time that follow from them, and whether nobody set any of them. -/
def Settings.report (settings : Settings) : Json :=
  match settings.toJson with
  | .object members => .object (members ++
      [ (some "derived_ms", settings.lengths),
        (some "is_default", .bool (settings = Settings.default)) ])
  | json => json

end Switchboard

/-
**Settings as JSON documents.**

For layers and settings a writer `toJson` and a reader `ofJson?`. In the document of a file, an array
that stands for a section may have more items than the section has fields.
-/

import Switchboard.Json.Record
import Switchboard.Settings.Layer

namespace Switchboard

open Json (ofString ofOption ofMembers)

/-- A number without sign. -/
def Json.ofUInt64 (number : UInt64) : Json := Json.ofNat number.toNat

/-- The section of the caches. -/
def CacheLayer.toJson (layer : CacheLayer) : Json :=
  ofMembers
    [ ("enabled", ofOption .bool layer.enabled),
      ("default_ttl_ms", ofOption Json.ofUInt64 layer.lifetimeMillis),
      ("max_entries", ofOption Json.ofUInt64 layer.maxEntries),
      ("sweep_interval_ms", ofOption Json.ofUInt64 layer.sweepMillis) ]

/-- The section of the caches. -/
def CacheLayer.record : Record CacheLayer := do
  let enabled ← Record.optional "enabled" Json.asBool?
  let lifetimeMillis ← Record.optional "default_ttl_ms" Json.asUInt64?
  let maxEntries ← Record.optional "max_entries" Json.asUInt64?
  let sweepMillis ← Record.optional "sweep_interval_ms" Json.asUInt64?
  pure { enabled, lifetimeMillis, maxEntries, sweepMillis }

/-- The section of refreshing. -/
def RefreshLayer.toJson (layer : RefreshLayer) : Json :=
  ofMembers
    [ ("enabled", ofOption .bool layer.enabled),
      ("initial_delay_ms", ofOption Json.ofUInt64 layer.delayMillis),
      ("period_ms", ofOption Json.ofUInt64 layer.periodMillis) ]

/-- The section of refreshing. -/
def RefreshLayer.record : Record RefreshLayer := do
  let enabled ← Record.optional "enabled" Json.asBool?
  let delayMillis ← Record.optional "initial_delay_ms" Json.asUInt64?
  let periodMillis ← Record.optional "period_ms" Json.asUInt64?
  pure { enabled, delayMillis, periodMillis }

/-- The section of the delivery of notices. -/
def NotifierLayer.toJson (layer : NotifierLayer) : Json :=
  ofMembers
    [ ("workers", ofOption Json.ofUInt64 layer.workers),
      ("queue_capacity", ofOption Json.ofUInt64 layer.queueCapacity),
      ("task_timeout_ms", ofOption Json.ofUInt64 layer.timeoutMillis) ]

/-- The section of the delivery of notices. -/
def NotifierLayer.record : Record NotifierLayer := do
  let workers ← Record.optional "workers" Json.asUInt64?
  let queueCapacity ← Record.optional "queue_capacity" Json.asUInt64?
  let timeoutMillis ← Record.optional "task_timeout_ms" Json.asUInt64?
  pure { workers, queueCapacity, timeoutMillis }

/-- The section of evaluation. -/
def EvaluatorLayer.toJson (layer : EvaluatorLayer) : Json :=
  ofMembers
    [ ("auto_create", ofOption .bool layer.autoCreate),
      ("audit_enabled", ofOption .bool layer.auditEnabled) ]

/-- The section of evaluation. -/
def EvaluatorLayer.record : Record EvaluatorLayer := do
  let autoCreate ← Record.optional "auto_create" Json.asBool?
  let auditEnabled ← Record.optional "audit_enabled" Json.asBool?
  pure { autoCreate, auditEnabled }

/-- The section of the log. -/
def LoggingLayer.toJson (layer : LoggingLayer) : Json :=
  ofMembers [("level", ofOption ofString layer.level), ("json", ofOption .bool layer.json)]

/-- The section of the log. -/
def LoggingLayer.record : Record LoggingLayer := do
  let level ← Record.optional "level" Json.asString?
  let json ← Record.optional "json" Json.asBool?
  pure { level, json }

/-- A layer. -/
def Layer.toJson (layer : Layer) : Json :=
  ofMembers
    [ ("cache", ofOption CacheLayer.toJson layer.cache),
      ("refresh", ofOption RefreshLayer.toJson layer.refresh),
      ("notifier", ofOption NotifierLayer.toJson layer.notifier),
      ("evaluator", ofOption EvaluatorLayer.toJson layer.evaluator),
      ("logging", ofOption LoggingLayer.toJson layer.logging) ]

/-- A layer; `surplus` allows more items than fields in an array. -/
def Layer.ofJsonWith? (surplus : Bool) (json : Json) : Option Layer :=
  json.recordWith? surplus do
    let cache ← Record.optional "cache" (Json.recordWith? surplus CacheLayer.record)
    let refresh ← Record.optional "refresh" (Json.recordWith? surplus RefreshLayer.record)
    let notifier ← Record.optional "notifier" (Json.recordWith? surplus NotifierLayer.record)
    let evaluator ← Record.optional "evaluator" (Json.recordWith? surplus EvaluatorLayer.record)
    let logging ← Record.optional "logging" (Json.recordWith? surplus LoggingLayer.record)
    pure { cache, refresh, notifier, evaluator, logging }

/-- A layer. -/
def Layer.ofJson? (json : Json) : Option Layer := Layer.ofJsonWith? false json

/-- The settings of caches. -/
def CacheSettings.toJson (settings : CacheSettings) : Json :=
  ofMembers
    [ ("enabled", .bool settings.enabled),
      ("default_ttl_ms", Json.ofUInt64 settings.lifetimeMillis),
      ("max_entries", Json.ofUInt64 settings.maxEntries),
      ("sweep_interval_ms", Json.ofUInt64 settings.sweepMillis) ]

/-- The settings of caches. -/
def CacheSettings.ofJson? (json : Json) : Option CacheSettings :=
  json.record? do
    let enabled ← Record.required "enabled" Json.asBool?
    let lifetimeMillis ← Record.required "default_ttl_ms" Json.asUInt64?
    let maxEntries ← Record.required "max_entries" Json.asUInt64?
    let sweepMillis ← Record.required "sweep_interval_ms" Json.asUInt64?
    pure { enabled, lifetimeMillis, maxEntries, sweepMillis }

/-- All settings. -/
def Settings.toJson (settings : Settings) : Json :=
  ofMembers
    [ ("cache", settings.cache.toJson),
      ("refresh", ofMembers
        [ ("enabled", .bool settings.refresh.enabled),
          ("initial_delay_ms", Json.ofUInt64 settings.refresh.delayMillis),
          ("period_ms", Json.ofUInt64 settings.refresh.periodMillis) ]),
      ("notifier", ofMembers
        [ ("workers", Json.ofUInt64 settings.notifier.workers),
          ("queue_capacity", Json.ofUInt64 settings.notifier.queueCapacity),
          ("task_timeout_ms", Json.ofUInt64 settings.notifier.timeoutMillis) ]),
      ("evaluator", ofMembers
        [ ("auto_create", .bool settings.evaluator.autoCreate),
          ("audit_enabled", .bool settings.evaluator.auditEnabled) ]),
      ("logging", ofMembers
        [("level", ofString settings.logging.level), ("json", .bool settings.logging.json)]) ]

end Switchboard

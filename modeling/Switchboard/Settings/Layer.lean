/-
**Settings in layers.**

A layer sets some fields of some sections. Layers are merged field by field, the later one winning, and
what no layer sets takes its default.

* `Layer.merge` — one layer over another.
* `Layer.resolve` — the settings of a merged layer.
* `Settings.check` — the rules that settings have to follow.
-/

namespace Switchboard

/-- The section of the caches, as far as it is set. -/
structure CacheLayer where
  enabled : Option Bool := none
  lifetimeMillis : Option UInt64 := none
  maxEntries : Option UInt64 := none
  sweepMillis : Option UInt64 := none
  deriving DecidableEq, Repr

/-- The section of the refreshing of caches, as far as it is set. -/
structure RefreshLayer where
  enabled : Option Bool := none
  delayMillis : Option UInt64 := none
  periodMillis : Option UInt64 := none
  deriving DecidableEq, Repr

/-- The section of the delivery of notices, as far as it is set. -/
structure NotifierLayer where
  workers : Option UInt64 := none
  queueCapacity : Option UInt64 := none
  timeoutMillis : Option UInt64 := none
  deriving DecidableEq, Repr

/-- The section of the evaluation of features, as far as it is set. -/
structure EvaluatorLayer where
  autoCreate : Option Bool := none
  auditEnabled : Option Bool := none
  deriving DecidableEq, Repr

/-- The section of the log, as far as it is set. -/
structure LoggingLayer where
  level : Option String := none
  json : Option Bool := none
  deriving DecidableEq, Repr

/-- Sections, as far as they are set. -/
structure Layer where
  cache : Option CacheLayer := none
  refresh : Option RefreshLayer := none
  notifier : Option NotifierLayer := none
  evaluator : Option EvaluatorLayer := none
  logging : Option LoggingLayer := none
  deriving DecidableEq, Repr

/-- How caches are kept. -/
structure CacheSettings where
  enabled : Bool
  lifetimeMillis : UInt64
  maxEntries : UInt64
  sweepMillis : UInt64
  deriving DecidableEq, Repr

/-- How caches are refreshed. -/
structure RefreshSettings where
  enabled : Bool
  delayMillis : UInt64
  periodMillis : UInt64
  deriving DecidableEq, Repr

/-- How notices are delivered. -/
structure NotifierSettings where
  workers : UInt64
  queueCapacity : UInt64
  timeoutMillis : UInt64
  deriving DecidableEq, Repr

/-- How features are evaluated. -/
structure EvaluatorSettings where
  autoCreate : Bool
  auditEnabled : Bool
  deriving DecidableEq, Repr

/-- How the log is written. -/
structure LoggingSettings where
  level : String
  json : Bool
  deriving DecidableEq, Repr

/-- All settings. -/
structure Settings where
  cache : CacheSettings
  refresh : RefreshSettings
  notifier : NotifierSettings
  evaluator : EvaluatorSettings
  logging : LoggingSettings
  deriving DecidableEq, Repr

/-! ### Merging -/

/-- The fields that `upper` sets, and those of `base` that it does not. -/
def CacheLayer.merge (base upper : CacheLayer) : CacheLayer where
  enabled := upper.enabled.or base.enabled
  lifetimeMillis := upper.lifetimeMillis.or base.lifetimeMillis
  maxEntries := upper.maxEntries.or base.maxEntries
  sweepMillis := upper.sweepMillis.or base.sweepMillis

/-- The fields that `upper` sets, and those of `base` that it does not. -/
def RefreshLayer.merge (base upper : RefreshLayer) : RefreshLayer where
  enabled := upper.enabled.or base.enabled
  delayMillis := upper.delayMillis.or base.delayMillis
  periodMillis := upper.periodMillis.or base.periodMillis

/-- The fields that `upper` sets, and those of `base` that it does not. -/
def NotifierLayer.merge (base upper : NotifierLayer) : NotifierLayer where
  workers := upper.workers.or base.workers
  queueCapacity := upper.queueCapacity.or base.queueCapacity
  timeoutMillis := upper.timeoutMillis.or base.timeoutMillis

/-- The fields that `upper` sets, and those of `base` that it does not. -/
def EvaluatorLayer.merge (base upper : EvaluatorLayer) : EvaluatorLayer where
  autoCreate := upper.autoCreate.or base.autoCreate
  auditEnabled := upper.auditEnabled.or base.auditEnabled

/-- The fields that `upper` sets, and those of `base` that it does not. -/
def LoggingLayer.merge (base upper : LoggingLayer) : LoggingLayer where
  level := upper.level.or base.level
  json := upper.json.or base.json

/-- A section of two layers: where both have it, its fields are merged. -/
def mergeSection {α : Type} (merge : α → α → α) : Option α → Option α → Option α
  | some base, some upper => some (merge base upper)
  | none, upper => upper
  | base, none => base

/-- The layer `upper` laid over the layer `base`. -/
def Layer.merge (base upper : Layer) : Layer where
  cache := mergeSection CacheLayer.merge base.cache upper.cache
  refresh := mergeSection RefreshLayer.merge base.refresh upper.refresh
  notifier := mergeSection NotifierLayer.merge base.notifier upper.notifier
  evaluator := mergeSection EvaluatorLayer.merge base.evaluator upper.evaluator
  logging := mergeSection LoggingLayer.merge base.logging upper.logging

/-! ### Resolving -/

/-- Caches are on; entries live a minute, there are at most ten thousand of them, and they are swept
every half minute. -/
def CacheLayer.resolve (layer : CacheLayer) : CacheSettings where
  enabled := layer.enabled.getD true
  lifetimeMillis := layer.lifetimeMillis.getD 60000
  maxEntries := layer.maxEntries.getD 10000
  sweepMillis := layer.sweepMillis.getD 30000

/-- Caches are refreshed at once and then every minute. -/
def RefreshLayer.resolve (layer : RefreshLayer) : RefreshSettings where
  enabled := layer.enabled.getD true
  delayMillis := layer.delayMillis.getD 0
  periodMillis := layer.periodMillis.getD 60000

/-- Four workers take from a queue of 1024 jobs, each of which has five seconds. -/
def NotifierLayer.resolve (layer : NotifierLayer) : NotifierSettings where
  workers := layer.workers.getD 4
  queueCapacity := layer.queueCapacity.getD 1024
  timeoutMillis := layer.timeoutMillis.getD 5000

/-- Missing features are not created, and changes are audited. -/
def EvaluatorLayer.resolve (layer : EvaluatorLayer) : EvaluatorSettings where
  autoCreate := layer.autoCreate.getD false
  auditEnabled := layer.auditEnabled.getD true

/-- The log is written from the level info on, as text. -/
def LoggingLayer.resolve (layer : LoggingLayer) : LoggingSettings where
  level := layer.level.getD "info"
  json := layer.json.getD false

/-- The settings of a layer, with the defaults for what it does not set. -/
def Layer.resolve (layer : Layer) : Settings where
  cache := (layer.cache.getD {}).resolve
  refresh := (layer.refresh.getD {}).resolve
  notifier := (layer.notifier.getD {}).resolve
  evaluator := (layer.evaluator.getD {}).resolve
  logging := (layer.logging.getD {}).resolve

/-- The settings that nobody set. -/
def Settings.default : Settings := ({} : Layer).resolve

/-! ### Rules -/

/-- The types of numbers in settings. -/
inductive NumberType where
  | u64
  | usize
  deriving DecidableEq, Repr

/-- The name of a type of numbers. -/
def NumberType.name : NumberType → String
  | .u64 => "u64"
  | .usize => "usize"

/-- A rule that settings break. -/
inductive SettingsRule where
  | someWorker
  | someQueue
  | someTimeout
  | somePeriod
  | someEntry
  deriving DecidableEq, Repr

/-- The wording of a rule. -/
def SettingsRule.message : SettingsRule → String
  | .someWorker => "notifier.workers must be at least 1"
  | .someQueue => "notifier.queue_capacity must be at least 1"
  | .someTimeout => "notifier.task_timeout_ms must be greater than 0"
  | .somePeriod => "refresh.period_ms must be greater than 0"
  | .someEntry => "cache.max_entries must be at least 1 when the cache is enabled"

/-- Why settings cannot be had. -/
inductive SettingsFault where
  | invalidNumber (name : String) (type : NumberType) (text : String)
  | malformedFile
  | unreadableFile
  | broken (rule : SettingsRule)
  deriving DecidableEq, Repr

/-- The wording of a fault, as far as it does not depend on a file. -/
def SettingsFault.message? : SettingsFault → Option String
  | .invalidNumber name type text =>
    some ("invalid value for " ++ name ++ ": invalid " ++ type.name ++ " value '" ++ text ++ "'")
  | .broken rule => some ("configuration validation failed: " ++ rule.message)
  | .malformedFile | .unreadableFile => none

/-- The first rule that settings break. -/
def Settings.brokenRule? (settings : Settings) : Option SettingsRule :=
  if settings.notifier.workers = 0 then some .someWorker
  else if settings.notifier.queueCapacity = 0 then some .someQueue
  else if settings.notifier.timeoutMillis = 0 then some .someTimeout
  else if settings.refresh.periodMillis = 0 then some .somePeriod
  else if settings.cache.enabled ∧ settings.cache.maxEntries = 0 then some .someEntry
  else none

/-- Settings that follow the rules. -/
def Settings.check (settings : Settings) : Except SettingsFault Settings :=
  match settings.brokenRule? with
  | some rule => .error (.broken rule)
  | none => .ok settings

/-- The settings of a layer, if they follow the rules. -/
def Layer.finalize (layer : Layer) : Except SettingsFault Settings := layer.resolve.check

/-- The interval of sweeps, unless they are switched off. -/
def CacheSettings.sweepInterval? (settings : CacheSettings) : Option Nat :=
  if settings.sweepMillis = 0 then none else some settings.sweepMillis.toNat

end Switchboard

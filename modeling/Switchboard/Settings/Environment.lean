/-
**Settings in the environment.**

Every field has a variable of its own. An empty variable counts as unset. Numbers may have blanks around
them; a truth value is true if it is spelled `true` in any case or `1`, and false otherwise.

* `Environment.layer` — the layer that the environment sets; the first number that cannot be read is
  a fault.
-/

import Switchboard.Number.Integer
import Switchboard.Settings.Layer
import Switchboard.Text.Blank

namespace Switchboard

/-- The values of variables. -/
abbrev Environment := String → Option String

namespace Environment

/-- The text of a variable that is not empty. -/
def text? (environment : Environment) (name : String) : Option String :=
  (environment name).filter fun text => text ≠ ""

/-- The truth value of a variable. -/
def bool? (environment : Environment) (name : String) : Option Bool :=
  (environment.text? name).map fun text => Text.equalIgnoringCase text "true" || text == "1"

/-- The number of a variable. -/
def number (environment : Environment) (type : NumberType) (name : String) :
    Except SettingsFault (Option UInt64) :=
  match environment.text? name with
  | none => .ok none
  | some text =>
    match Number.readUnsigned (Text.trim text).toList with
    | .ok number => .ok (some number)
    | .error _ => .error (.invalidNumber name type text)

/-- The layer that the environment sets. -/
def layer (environment : Environment) : Except SettingsFault Layer := do
  let lifetimeMillis ← environment.number .u64 "LATCH_CACHE_DEFAULT_TTL_MS"
  let maxEntries ← environment.number .usize "LATCH_CACHE_MAX_ENTRIES"
  let sweepMillis ← environment.number .u64 "LATCH_CACHE_SWEEP_INTERVAL_MS"
  let delayMillis ← environment.number .u64 "LATCH_REFRESH_INITIAL_DELAY_MS"
  let periodMillis ← environment.number .u64 "LATCH_REFRESH_PERIOD_MS"
  let workers ← environment.number .usize "LATCH_NOTIFIER_WORKERS"
  let queueCapacity ← environment.number .usize "LATCH_NOTIFIER_QUEUE_CAPACITY"
  let timeoutMillis ← environment.number .u64 "LATCH_NOTIFIER_TASK_TIMEOUT_MS"
  pure
    { cache := some
        { enabled := environment.bool? "LATCH_CACHE_ENABLED"
          lifetimeMillis, maxEntries, sweepMillis }
      refresh := some
        { enabled := environment.bool? "LATCH_REFRESH_ENABLED", delayMillis, periodMillis }
      notifier := some { workers, queueCapacity, timeoutMillis }
      evaluator := some
        { autoCreate := environment.bool? "LATCH_EVALUATOR_AUTO_CREATE"
          auditEnabled := environment.bool? "LATCH_EVALUATOR_AUDIT_ENABLED" }
      logging := some
        { level := environment.text? "LATCH_LOG_LEVEL", json := environment.bool? "LATCH_LOG_JSON" } }

end Environment

end Switchboard

/-
**Listeners.**

* `Usage` — how often each feature was found on; `Usage.receive` — a use is counted, and a deleted feature is
  forgotten.
* `Listener` — who can be told of a notice: a listener that writes a line per notice and ends in a
  given way, with another line if that took time, one that does nothing, the counter of uses and the
  audit listener.
* `ListenerFailure` — why a listener failed.
* `Journal` — what listeners leave behind.
-/

import Switchboard.Delivery.Audit
import Switchboard.Schedule.Dispatcher

namespace Switchboard

/-- How often each feature was found on. -/
structure Usage where
  counts : Table Nat := ∅
  deriving DecidableEq

namespace Usage

/-- The number of uses of a feature. -/
def hits (usage : Usage) (id : String) : Nat := (usage.counts[id]?).getD 0

/-- The number of all uses. -/
def total (usage : Usage) : Nat := usage.counts.values.foldl (· + ·) 0

/-- Nothing was used. -/
def reset : Usage := {}

/-- The usage after a notice. -/
def receive (usage : Usage) : FeatureNotice → Usage
  | .used id _ => ⟨usage.counts.insert id (usage.hits id + 1)⟩
  | .store (.deleted id) => ⟨usage.counts.erase id⟩
  | .store .allDeleted => reset
  | _ => usage

end Usage

/-- Why a listener failed. -/
inductive ListenerFailure where
  | failed (reason : String)
  | sink (name reason : String)
  deriving DecidableEq, Repr

/-- The wording of a failure. -/
def ListenerFailure.message : ListenerFailure → String
  | .failed reason => "listener failed: " ++ reason
  | .sink name reason => "audit sink " ++ name ++ " failed: " ++ reason

/-- Who can be told of a notice. -/
inductive Listener where
  | recorder (ending : Ending)
  | quiet
  | usage
  | audit (auditor : Auditor)
  deriving DecidableEq, Repr

/-- How a listener ends. -/
def Listener.ending : Listener → Ending
  | .recorder ending => ending
  | .quiet | .usage | .audit _ => .atOnce .succeeds

/-- A notice on its way to a listener. -/
structure Delivery where
  name : String
  listener : Listener
  notice : Notice

/-- What listeners were told, the oldest first, and what they leave behind: lines, the usage of
features, and the memory of events. -/
structure Journal where
  begun : List Delivery := []
  lines : List String := []
  usage : Usage := {}
  events : List Event := []

namespace Journal

/-- The journal with a line. -/
def write (journal : Journal) (line : String) : Journal :=
  { journal with lines := journal.lines ++ [line] }

/-- What a listener leaves behind as soon as it is told of a notice. -/
def begin (journal : Journal) (now : Time.Instant) (delivery : Delivery) : Journal :=
  match delivery.listener with
  | .recorder _ => journal.write (delivery.name ++ " " ++ delivery.notice.line)
  | .quiet => journal
  | .usage =>
    match delivery.notice with
    | .feature notice => { journal with usage := journal.usage.receive notice }
    | .property _ => journal
  | .audit auditor =>
    { journal with events := auditor.receive now delivery.notice journal.events }

/-- The journal after what happened to a delivery. -/
def record (now : Time.Instant) (journal : Journal) : Occurrence Delivery → Journal
  | .began delivery => { journal with begun := journal.begun ++ [delivery] }.begin now delivery
  | .finished delivery => journal.write (delivery.name ++ " done")

end Journal

end Switchboard

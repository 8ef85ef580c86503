/-
**Execution contexts.**

A context holds named values and perhaps the principal on whose behalf a feature is checked.

* `Context.merged` — one context over another: its values win name by name, its principal as a whole.
* `Context.double?` — the only getter that converts: integers widen to doubles.
-/

import Switchboard.Access.AccessList
import Switchboard.Value

namespace Switchboard

/-- Named values and the principal of a check. -/
structure Context where
  values : Table Value := ∅
  principal : Option Principal := none
  deriving DecidableEq

namespace Context

/-- The context without values and principal. -/
def empty : Context := {}

/-- Nothing is set. -/
def isEmpty (context : Context) : Bool := context.values.isEmpty && context.principal.isNone

/-- The number of values. -/
def size (context : Context) : Nat := context.values.size

/-- The names of the values. -/
def keys (context : Context) : List String := context.values.keys

/-- The value under a name. -/
def get? (context : Context) (key : String) : Option Value := context.values[key]?

/-- The name has a value. -/
def contains (context : Context) (key : String) : Bool := context.values.contains key

/-- The context with a value under a name. -/
def set (context : Context) (key : String) (value : Value) : Context :=
  { context with values := context.values.insert key value }

/-- The context without a name. -/
def remove (context : Context) (key : String) : Context :=
  { context with values := context.values.erase key }

/-- The context with a principal or none. -/
def withPrincipal (context : Context) (principal : Option Principal) : Context :=
  { context with principal }

/-- The text under a name. -/
def text? (context : Context) (key : String) : Option String := (context.get? key).bind Value.asText?

/-- The truth value under a name. -/
def bool? (context : Context) (key : String) : Option Bool := (context.get? key).bind Value.asBool?

/-- The integer under a name. -/
def int? (context : Context) (key : String) : Option Int64 := (context.get? key).bind Value.asInt?

/-- The double under a name, or an integer as a double. -/
def double? (context : Context) (key : String) : Option Float :=
  (context.get? key).bind Value.asDouble?

/-- The instant under a name. -/
def date? (context : Context) (key : String) : Option Time.Instant :=
  (context.get? key).bind Value.asDate?

/-- `overrides` layered over `context`. -/
def merged (context overrides : Context) : Context where
  values := context.values ∪ overrides.values
  principal := overrides.principal.or context.principal

end Context

end Switchboard

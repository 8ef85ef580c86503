/-
**Decisions.**

* `Decision` — whether a feature is on for a caller, and why.
-/

namespace Switchboard

/-- Why a feature is on or off. -/
inductive DecisionReason where
  | disabled
  | accessDenied
  | overrideStrategy
  | boundStrategy
  | enabled
  | autoCreated
  deriving DecidableEq, Repr

/-- The name of a reason. -/
def DecisionReason.name : DecisionReason → String
  | .disabled => "disabled"
  | .accessDenied => "access_denied"
  | .overrideStrategy => "override_strategy"
  | .boundStrategy => "bound_strategy"
  | .enabled => "enabled"
  | .autoCreated => "auto_created"

/-- The reasons in their order. -/
def DecisionReason.all : List DecisionReason :=
  [.disabled, .accessDenied, .overrideStrategy, .boundStrategy, .enabled, .autoCreated]

/-- Whether a feature is on for a caller, and why. -/
structure Decision where
  featureId : String
  enabled : Bool
  reason : DecisionReason
  deriving DecidableEq, Repr

/-- The decision that a feature is off. -/
def Decision.off (featureId : String) (reason : DecisionReason) : Decision :=
  ⟨featureId, false, reason⟩

end Switchboard

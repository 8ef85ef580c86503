/-
**A catalogue of strategies.**

* `always_true`, `always_false` — constant answers.
* `context_key` — a truth value of the context.
* `min_score` — the score in the context reaches a threshold.
* `member_of` — the principal belongs to a group.
* `depends_on` — another feature is enabled.
* `exploding` — always fails.
-/

import Switchboard.Strategy.Registry

namespace Switchboard.Catalogue

/-- A strategy with a single parameter that it cannot do without. -/
def withParam (typeName key : String)
    (plan : String → Except Fault (String → Context → Plan Bool)) : String × StrategyFactory :=
  (typeName, fun params => do
    let value ← requiredParam typeName params key
    pure { typeName, params := (∅ : Table String).insert key value, plan := ← plan value })

/-- A strategy without parameters. -/
def plain (typeName : String) (plan : String → Context → Plan Bool) : String × StrategyFactory :=
  (typeName, fun _ => .ok { typeName, plan })

/-- A plan that only looks at the context. -/
def looking (decide : Context → Bool) (_ : String) (context : Context) : Plan Bool :=
  .done (.ok (decide context))

/-- The score in the context reaches a threshold. -/
def scoreReaches (threshold : Float) (context : Context) : Bool :=
  (context.double? "score").any fun score => score ≥ threshold

/-- The constructors of the catalogue under their names. -/
def all : List (String × StrategyFactory) :=
  [ plain "always_true" (looking fun _ => true),
    plain "always_false" (looking fun _ => false),
    withParam "context_key" "key" fun key =>
      .ok (looking fun context => (context.bool? key).getD false),
    withParam "min_score" "threshold" fun text =>
      match Number.readDouble text.toList with
      | .ok threshold => .ok (looking (scoreReaches threshold))
      | .error _ => .error (.invalidStrategy "min_score" ("bad threshold '" ++ text ++ "'")),
    withParam "member_of" "group" fun group =>
      .ok (looking fun context => context.principal.any fun principal =>
        principal.groups.contains group),
    withParam "depends_on" "feature" fun other =>
      .ok fun _ _ => Plan.readFeature other fun feature => .done (.ok feature.enabled),
    plain "exploding" fun id _ => .done (.error (.internal ("strategy exploded on " ++ id))) ]

/-- The constructor of the catalogue under a name. -/
def find? (name : String) : Option StrategyFactory := all.lookup name

/-- The registry of the whole catalogue. -/
def registry : StrategyRegistry :=
  all.foldl (fun registry (name, factory) => registry.register name factory) {}

end Switchboard.Catalogue

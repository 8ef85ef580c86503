/-
**Features.**

A feature can be switched on and off. It may belong to a group, be bound to a strategy, carry
properties of its own and restrict its permissions.

* `StrategyConfig` — a type of strategy with its parameters.
* `Feature.new` — a disabled feature with nothing set.
* `Feature.withEnabled`, `Feature.withGroup` — the changes that a repository makes, marked as updated.
-/

import Switchboard.Property

namespace Switchboard

/-- A type of strategy with its parameters. -/
structure StrategyConfig where
  typeName : String
  params : Table String := ∅
  deriving DecidableEq

/-- Something that is switched on and off. -/
structure Feature where
  id : String
  enabled : Bool := false
  description : Option String := none
  owner : Option String := none
  group : Option String := none
  createdAt : Time.Instant
  updatedAt : Time.Instant
  properties : Table Property := ∅
  acl : AccessList := {}
  strategy : Option StrategyConfig := none
  deriving DecidableEq

namespace Feature

/-- A disabled feature made now, without group, strategy, properties or access list. -/
def new (id : String) (now : Time.Instant) : Feature := { id, createdAt := now, updatedAt := now }

/-- The feature with a property, in place of one of the same identifier. -/
def withProperty (feature : Feature) (property : Property) : Feature :=
  { feature with properties := feature.properties.insert property.id property }

/-- The feature belongs to a group. -/
def inGroup (feature : Feature) (group : String) : Bool := feature.group == some group

/-- The feature with other timestamps. -/
def stamp (feature : Feature) (created updated : Time.Instant) : Feature :=
  { feature with createdAt := created, updatedAt := max updated created }

/-- Fails for a feature that no store takes: its identifier, its group and its properties have to
pass, in this order. -/
def check (feature : Feature) : Except Fault Unit := do
  checkIdentifier feature.id
  match feature.group with
  | some group => checkIdentifier group
  | none => pure ()
  feature.properties.values.forM Property.check

instance : Entity Feature where
  kind := .feature
  id := id
  createdAt := createdAt
  updatedAt := updatedAt
  stamp := stamp
  check := check
  summary feature := truthWord feature.enabled
  id_stamp _ _ _ := rfl
  createdAt_stamp _ _ _ := rfl
  updatedAt_stamp _ _ _ := rfl
  check_stamp _ _ _ := rfl

/-- The feature switched on or off now. -/
def withEnabled (feature : Feature) (now : Time.Instant) (enabled : Bool) : Feature :=
  Entity.touched now { feature with enabled }

/-- The feature put into a group, or taken out of its group, now. -/
def withGroup (feature : Feature) (now : Time.Instant) (group : Option String) : Feature :=
  Entity.touched now { feature with group }

/-- The feature after an edit of its access list, now. -/
def withEdit (feature : Feature) (now : Time.Instant) (edit : AccessEdit) : Feature :=
  Entity.touched now { feature with acl := feature.acl.apply edit }

end Feature

end Switchboard

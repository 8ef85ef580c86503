/-
**Properties.**

A property has a value and perhaps a list of the only values it may have.

* `Property.accepts` — a value is allowed.
* `Property.withValueRead` — the property with a value read from a text as one of its type.
* a store takes a property whose fixed values have its type and contain its value.
-/

import Switchboard.Access.AccessList
import Switchboard.Entity
import Switchboard.Value

namespace Switchboard

/-- A named value. -/
structure Property where
  id : String
  value : Value
  fixedValues : List Value := []
  description : Option String := none
  owner : Option String := none
  createdAt : Time.Instant
  updatedAt : Time.Instant
  acl : AccessList := {}
  deriving DecidableEq

namespace Property

/-- A property made now. -/
def new (id : String) (value : Value) (now : Time.Instant) : Property :=
  { id, value, createdAt := now, updatedAt := now }

/-- A value is allowed: every value is if none are fixed. -/
def accepts (property : Property) (value : Value) : Bool :=
  property.fixedValues.isEmpty || property.fixedValues.any fun fixed => fixed.agrees value

/-- Fails for a value that is not allowed. -/
def checkAccepts (property : Property) (value : Value) : Except Fault Unit :=
  if property.accepts value then .ok ()
  else .error (.invalidPropertyValue property.id
    ("'" ++ value.shown ++ "' is not one of the allowed values"))

/-- The property with other timestamps. -/
def stamp (property : Property) (created updated : Time.Instant) : Property :=
  { property with createdAt := created, updatedAt := max updated created }

/-- Fails for a property that no store takes. -/
def check (property : Property) : Except Fault Unit := do
  checkIdentifier property.id
  match property.fixedValues.find? fun fixed => fixed.type != property.value.type with
  | some bad => throw (.invalidPropertyValue property.id
      ("fixed value '" ++ bad.shown ++ "' is a " ++ bad.type.name ++ " but the property is a " ++
        property.value.type.name))
  | none => property.checkAccepts property.value

instance : Entity Property where
  kind := .property
  id := id
  createdAt := createdAt
  updatedAt := updatedAt
  stamp := stamp
  check := check
  summary property := property.value.shown
  id_stamp _ _ _ := rfl
  createdAt_stamp _ _ _ := rfl
  updatedAt_stamp _ _ _ := rfl
  check_stamp _ _ _ := rfl

/-- The property with a value read from a text as one of its type, marked as updated now. -/
def withValueRead (property : Property) (now : Time.Instant) (raw : String) :
    Except Fault Property := do
  match property.value.readLike raw with
  | .error problem => throw (.invalidPropertyValue property.id problem.message)
  | .ok value =>
    property.checkAccepts value
    pure (Entity.touched now { property with value })

end Property

end Switchboard

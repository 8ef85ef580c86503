/-
**Entities.**

A store keeps entities: things with an identifier and two timestamps, that can be checked before they
are stored.

* `Entity` — what a store needs to know of a type, with the laws that stamping obeys.
* `Entity.touched` — an entity marked as updated now.
-/

import Switchboard.Fault
import Switchboard.Time.Instant

namespace Switchboard

/-- A type of things that a store can keep. Stamping an entity sets when it was created and when it
was updated, never earlier than created, and changes nothing that its check looks at. -/
class Entity (E : Type) where
  /-- The kind that faults name. -/
  kind : EntityKind
  /-- The identifier of an entity. -/
  id : E → String
  /-- When an entity was created. -/
  createdAt : E → Time.Instant
  /-- When an entity was last updated. -/
  updatedAt : E → Time.Instant
  /-- An entity with other timestamps. -/
  stamp : E → (created updated : Time.Instant) → E
  /-- Fails for an entity that no store takes. -/
  check : E → Except Fault Unit
  /-- What a report on a change shows of an entity. -/
  summary : E → String
  id_stamp : ∀ entity created updated, id (stamp entity created updated) = id entity
  createdAt_stamp : ∀ entity created updated, createdAt (stamp entity created updated) = created
  updatedAt_stamp : ∀ entity created updated,
    updatedAt (stamp entity created updated) = max updated created
  check_stamp : ∀ entity created updated, check (stamp entity created updated) = check entity

/-- An entity marked as updated now. -/
def Entity.touched {E : Type} [Entity E] (now : Time.Instant) (entity : E) : E :=
  Entity.stamp entity (Entity.createdAt entity) now

end Switchboard

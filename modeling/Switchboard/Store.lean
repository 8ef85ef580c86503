/-
**A store in memory.**

A store keeps entities under their identifiers.

* `Store.create`, `Store.update`, `Store.delete` — one entity; a new one is kept as it is, an updated
  one keeps the creation time of the entity that it replaces and is stamped with the time now.
* `Store.save` — a batch: nothing is stored unless every entity passes its check.
* `Store.handle` — the calls of a repository.
-/

import Switchboard.Repository.Call

namespace Switchboard

/-- Entities under their identifiers. -/
structure Store (E : Type) where
  entities : Table E := ∅

namespace Store

variable {E : Type} [Entity E]

/-- The store of nothing. -/
def empty : Store E := {}

/-- The entity with an identifier. -/
def find? (store : Store E) (id : String) : Option E := store.entities[id]?

/-- The entities in the order of their identifiers. -/
def toList (store : Store E) : List E := store.entities.values

/-- The identifiers in their order. -/
def ids (store : Store E) : List String := store.entities.keys

/-- The number of entities. -/
def size (store : Store E) : Nat := store.entities.size

/-- A store that keeps an entity under its identifier. -/
def insert (store : Store E) (entity : E) : Store E :=
  ⟨store.entities.insert (Entity.id entity) entity⟩

/-- The store of the entities of a list: every one has to pass its check, and no two may have the same
identifier. -/
def ofList (entities : List E) : Except Fault (Store E) := do
  let table ← entities.foldlM
    (fun (table : Table E) entity => do
      Entity.check entity
      if table.contains (Entity.id entity) then
        throw (.alreadyExists (Entity.kind E) (Entity.id entity))
      pure (table.insert (Entity.id entity) entity))
    ∅
  pure ⟨table⟩

/-- Keeps a new entity as it is. -/
def create (store : Store E) (entity : E) : Except Fault (Store E) := do
  Entity.check entity
  match store.find? (Entity.id entity) with
  | some _ => throw (.alreadyExists (Entity.kind E) (Entity.id entity))
  | none => pure (store.insert entity)

/-- An entity in place of the one before it, created when that one was and updated now. -/
def restamp (now : Time.Instant) (entity previous : E) : E :=
  Entity.stamp entity (Entity.createdAt previous) now

/-- Replaces an entity. -/
def update (store : Store E) (now : Time.Instant) (entity : E) : Except Fault (Store E) := do
  Entity.check entity
  match store.find? (Entity.id entity) with
  | some previous => pure (store.insert (restamp now entity previous))
  | none => throw (.notFound (Entity.kind E) (Entity.id entity))

/-- Drops an entity. -/
def delete (store : Store E) (id : String) : Except Fault (Store E) :=
  match store.find? id with
  | some _ => .ok ⟨store.entities.erase id⟩
  | none => .error (.notFound (Entity.kind E) id)

/-- Keeps a new entity as it is and replaces a stored one. -/
def upsert (now : Time.Instant) (store : Store E) (entity : E) : Store E :=
  match store.find? (Entity.id entity) with
  | some previous => store.insert (restamp now entity previous)
  | none => store.insert entity

/-- Keeps or replaces every entity of a batch, or nothing if one of them does not pass its check. -/
def save (store : Store E) (now : Time.Instant) (entities : List E) : Except Fault (Store E) := do
  entities.forM Entity.check
  pure (entities.foldl (upsert now) store)

/-- Replaces the store by what a change of it gives. -/
def changing (change : Store E → Time.Instant → Except Fault (Store E)) : Act (Store E) Unit := do
  set (← Act.lift (change (← get) (← Act.now)))

/-- The calls of a repository, answered by a store. -/
def handle : StoreHandler E (Store E)
  | .has id => return (← get).entities.contains id
  | .find id => return (← get).find? id
  | .read id | .fetch id => do Act.lift (found id ((← get).find? id))
  | .all => return (← get).toList
  | .create entity => changing fun store _ => store.create entity
  | .update entity => changing fun store now => store.update now entity
  | .delete id => changing fun store _ => store.delete id
  | .save entities => changing fun store now => store.save now entities
  | .deleteAll => set (empty : Store E)
  | .count => return (← get).size
  | .prepare => pure ()

end Store

end Switchboard

/-
**Repositories behind a cache.**

* `Caching.store`, `Caching.features`, `Caching.properties` — a repository that answers single reads
  from a cache, falls back on the repository below it and keeps what it finds. Other reads bypass the
  cache. A write goes below first; only if it succeeds, what the cache holds of it is dropped, and a
  created entity is kept.
* `Bypassing.handle` — the same state without use of the cache.
* `Caching.reload` — everything below in place of what the cache holds.
-/

import Switchboard.Cache
import Switchboard.Repository.Call

namespace Switchboard

/-- A state with a cache in front of it. -/
structure Cached (E σ : Type) where
  cache : Cache E
  below : σ

namespace Cached

variable {E σ α : Type}

/-- An action below the cache. -/
def under (action : Act σ α) : Act (Cached E σ) α :=
  Act.onPart Cached.below (fun below state => { state with below }) action

/-- A change of the cache, given the clock. -/
def change (change : Nat → Cache E → Cache E) : Act (Cached E σ) Unit := do
  let clock ← Act.clock
  modify fun state => { state with cache := change clock state.cache }

/-- A look at the cache. -/
def lookUp (key : String) : Act (Cached E σ) (Option E) := do
  let clock ← Act.clock
  modifyGet fun state =>
    let (value, cache) := state.cache.get clock key
    (value, { state with cache })

end Cached

namespace Caching

open Cached

variable {E σ : Type} [Entity E]

/-- Keeps an entity for the lifetime of the cache. -/
def keep (entity : E) : Act (Cached E σ) Unit :=
  change fun clock cache => cache.put clock (Entity.id entity) entity none

/-- Drops what is kept under an identifier. -/
def forget (id : String) : Act (Cached E σ) Unit := change fun _ cache => cache.evict id

/-- Drops all that is kept. -/
def forgetAll : Act (Cached E σ) Unit := change fun _ cache => cache.clear

/-- Finds an entity in the cache, or below and keeps it. -/
def find (inner : StoreHandler E σ) (id : String) : Act (Cached E σ) (Option E) := do
  match ← lookUp id with
  | some entity => pure (some entity)
  | none =>
    let loaded ← under (inner (.find id))
    match loaded with
    | some entity => change fun clock cache => cache.put clock id entity none
    | none => pure ()
    pure loaded

/-- The calls of a repository, behind a cache. -/
def store (inner : StoreHandler E σ) : StoreHandler E (Cached E σ)
  | .find id => find inner id
  | .read id => do Act.lift (found id (← find inner id))
  | .create entity => do
    under (inner (.create entity))
    keep entity
  | .update entity => do
    under (inner (.update entity))
    forget (Entity.id entity)
  | .delete id => do
    under (inner (.delete id))
    forget id
  | .save entities => do
    under (inner (.save entities))
    forgetAll
  | .deleteAll => do
    under (inner .deleteAll)
    forgetAll
  | .has id => under (inner (.has id))
  | .fetch id => under (inner (.fetch id))
  | .all => under (inner .all)
  | .count => under (inner .count)
  | .prepare => under (inner .prepare)

/-- The calls of a repository of features, behind a cache. -/
def features (inner : FeatureHandler σ) : FeatureHandler (Cached Feature σ)
  | .store call => store (fun call => inner (.store call)) call
  | .setEnabled id enabled => do
    under (inner (.setEnabled id enabled))
    forget id
  | .addToGroup id group => do
    under (inner (.addToGroup id group))
    forget id
  | .removeFromGroup id group => do
    under (inner (.removeFromGroup id group))
    forget id
  | .setGroupEnabled group enabled => do
    under (inner (.setGroupEnabled group enabled))
    forgetAll
  | .hasGroup group => under (inner (.hasGroup group))
  | .readGroup group => under (inner (.readGroup group))
  | .groups => under (inner .groups)

/-- The calls of a repository of properties, behind a cache. -/
def properties (inner : PropertyHandler σ) : PropertyHandler (Cached Property σ)
  | .store call => store (fun call => inner (.store call)) call
  | .setValue id raw => do
    under (inner (.setValue id raw))
    forget id

/-- Puts everything below in place of what the cache holds; the number of entities loaded. Nothing is
dropped if the repository below fails. -/
def reload (inner : StoreHandler E σ) : Act (Cached E σ) Nat := do
  let entities ← under (inner .all)
  change fun clock cache =>
    entities.foldl (fun cache entity => cache.put clock (Entity.id entity) entity none) cache.clear
  pure entities.length

end Caching

/-- Every call goes below; the cache is not used. -/
def Bypassing.handle {E σ C : Type} {Reply : C → Type} (inner : Handler Reply σ) :
    Handler Reply (Cached E σ) := fun call => Cached.under (inner call)

end Switchboard

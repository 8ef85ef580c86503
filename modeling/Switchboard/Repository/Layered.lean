/-
**Repositories in layers.**

A repository reports its changes, reads through a cache and keeps its entities in a store: notices are
on top, the cache is below them, the store at the bottom. Either upper layer can be left out; calls
then pass it unchanged.

* `Layered.features`, `Layered.properties` — the calls of a repository, made at the top.
* `Layered.direct` — an action on the store itself, past all layers.
-/

import Switchboard.Repository.Backend
import Switchboard.Repository.Caching
import Switchboard.Repository.Composed
import Switchboard.Repository.Notifying

namespace Switchboard

/-- Which layers a repository has above its store. -/
structure Layers where
  cached : Bool
  notifying : Bool
  deriving DecidableEq, Repr

/-- The notices, the cache and the store of a repository. -/
abbrev Layered (E N : Type) := Notified N (Cached E (Backend E))

namespace Layered

variable {E N α : Type}

/-- A repository over a store, without notices and with an empty cache. -/
def new (store : Store E) (lifetime maxEntries : Nat) (ties : Nat → Nat) : Layered E N :=
  { below := { cache := Cache.new lifetime maxEntries ties, below := { store } } }

/-- The cache of a repository. -/
def cache (layered : Layered E N) : Cache E := layered.below.cache

/-- The store of a repository. -/
def backend (layered : Layered E N) : Backend E := layered.below.below

/-- An action on the cache and the store. -/
def belowNotices (action : Act (Cached E (Backend E)) α) : Act (Layered E N) α :=
  Notified.under action

/-- An action on the store itself, past all layers. -/
def direct (action : Act (Backend E) α) : Act (Layered E N) α := belowNotices (Cached.under action)

/-- The calls of a repository of features. -/
def features (layers : Layers) : FeatureHandler (Layered Feature FeatureNotice) :=
  let stored := Repository.features Backend.handle
  let cached : FeatureHandler (Cached Feature (Backend Feature)) :=
    if layers.cached then Caching.features stored else Bypassing.handle stored
  if layers.notifying then Notifying.features cached else Silent.handle cached

/-- The calls of a repository of properties. -/
def properties (layers : Layers) : PropertyHandler (Layered Property PropertyNotice) :=
  let stored := Repository.properties Backend.handle
  let cached : PropertyHandler (Cached Property (Backend Property)) :=
    if layers.cached then Caching.properties stored else Bypassing.handle stored
  if layers.notifying then Notifying.properties cached else Silent.handle cached

end Layered

end Switchboard

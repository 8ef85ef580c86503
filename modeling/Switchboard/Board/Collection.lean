/-
**Collections.**

A collection is a repository in layers with what goes with it: a refresher that reloads the cache
periodically, a sweeper that drops what has expired, and the listeners to its changes.

* `Collection.refresh` — a reload of the cache that is counted.
* `Collection.run` — the refreshes and sweeps that are due.
* `CollectionCall`, `Collection.handle` — what can be asked of a collection.
-/

import Switchboard.Delivery.Desk
import Switchboard.Repository.Layered
import Switchboard.Schedule.Periodic

namespace Switchboard

/-- How often the cache was reloaded, how often that failed, and when it last succeeded. -/
structure RefreshStats where
  succeeded : Nat := 0
  failed : Nat := 0
  lastSuccess : Option Time.Instant := none
  deriving DecidableEq

/-- A worker that reloads a cache. -/
structure Refresher where
  worker : Periodic
  stats : RefreshStats := {}
  deriving DecidableEq

/-- A repository in layers with its refresher, its sweeper and its listeners. -/
structure Collection (E N : Type) where
  layers : Layers
  layered : Layered E N
  refresher : Option Refresher := none
  sweeper : Option Periodic := none
  listeners : Listeners := ∅

namespace Collection

variable {E N α : Type}

/-- An action on the repository. -/
def onLayered (action : Act (Layered E N) α) : Act (Collection E N) α :=
  Act.onPart Collection.layered (fun layered collection => { collection with layered }) action

/-- Changes the counters of the refresher. -/
def tally (change : RefreshStats → RefreshStats) : Act (Collection E N) Unit :=
  modify fun collection =>
    { collection with refresher := collection.refresher.map fun refresher =>
        { refresher with stats := change refresher.stats } }

/-! ### What happens in the background -/

/-- Reloads the cache and counts the success or the failure; the number of entities loaded. -/
def refresh [Entity E] : Act (Collection E N) Nat := do
  match ← (onLayered (Layered.belowNotices (Caching.reload Backend.handle))).attempt with
  | .ok loaded =>
    let now ← Act.now
    tally fun stats => { stats with succeeded := stats.succeeded + 1, lastSuccess := some now }
    pure loaded
  | .error fault =>
    tally fun stats => { stats with failed := stats.failed + 1 }
    throw fault

/-- Drops what has expired from the cache. -/
def sweep : Act (Collection E N) Unit :=
  onLayered (Layered.belowNotices (Cached.change fun clock cache => (cache.sweep clock).2))

/-- Does something so many times, whatever comes of it. -/
def repeatedly (action : Act (Collection E N) α) (times : Nat) (moment : Moment)
    (collection : Collection E N) : Collection E N :=
  Nat.repeat (fun collection => (action.perform moment collection).2) times collection

/-- The refreshes that are due. -/
def runRefresher [Entity E] (moment : Moment) (collection : Collection E N) : Collection E N :=
  match collection.refresher with
  | none => collection
  | some refresher =>
    let (ticks, worker) := refresher.worker.tickCount moment.clock
    repeatedly refresh ticks moment { collection with refresher := some { refresher with worker } }

/-- The sweeps that are due. -/
def runSweeper (moment : Moment) (collection : Collection E N) : Collection E N :=
  match collection.sweeper with
  | none => collection
  | some sweeper =>
    let (ticks, worker) := sweeper.tickCount moment.clock
    repeatedly sweep ticks moment { collection with sweeper := some worker }

/-- The refreshes and the sweeps that are due. -/
def run [Entity E] (moment : Moment) (collection : Collection E N) : Collection E N :=
  (collection.runRefresher moment).runSweeper moment

/-- The time of the next refresh or sweep. -/
def due? (collection : Collection E N) : Option Nat :=
  [collection.refresher.bind fun refresher => refresher.worker.due?,
    collection.sweeper.bind Periodic.due?].reduceOption.min?

instance [Entity E] : Timed (Collection E N) where
  due? := due?
  run := run

/-- The refresher is running. -/
def isRefreshing (collection : Collection E N) : Bool :=
  collection.refresher.any fun refresher => refresher.worker.isRunning

/-! ### Starts and stops -/

/-- Starts a worker; whether it was started. -/
def started (clock : Nat) (worker : Periodic) : Bool × Periodic := worker.start clock

/-- Stops a worker; whether it was running. -/
def stopped (clock : Nat) (worker : Periodic) : Bool × Periodic :=
  (worker.isRunning, (worker.stop clock).1)

/-- A start or a stop of the refresher, if there is one. -/
def turnRefresher (turn : Nat → Periodic → Bool × Periodic) : Act (Collection E N) Bool := do
  let clock ← Act.clock
  modifyGet fun collection =>
    match collection.refresher with
    | none => (false, collection)
    | some refresher =>
      let (answer, worker) := turn clock refresher.worker
      (answer, { collection with refresher := some { refresher with worker } })

/-- A start or a stop of the sweeper, if there is one. -/
def turnSweeper (turn : Nat → Periodic → Bool × Periodic) : Act (Collection E N) Bool := do
  let clock ← Act.clock
  modifyGet fun collection =>
    match collection.sweeper with
    | none => (false, collection)
    | some sweeper =>
      let (answer, worker) := turn clock sweeper
      (answer, { collection with sweeper := some worker })

/-- The collection with its refresher and its sweeper started. -/
def startAll : Act (Collection E N) Unit := do
  let _ ← turnRefresher started
  let _ ← turnSweeper started

/-- The collection with its refresher and its sweeper stopped. -/
def stopAll : Act (Collection E N) Unit := do
  let _ ← turnRefresher stopped
  let _ ← turnSweeper stopped

end Collection

/-! ### Calls -/

/-- What can be asked of a collection: calls of its repository, calls of its store past the layers,
and what goes with the repository. -/
inductive CollectionCall (C : Type) where
  | call (call : C)
  | direct (call : C)
  | setOnline (online : Bool)
  | register (name : String) (listener : Listener)
  | unregister (name : String)
  | clearCache
  | refresh
  | startRefreshing
  | stopRefreshing
  | startSweeping
  | stopSweeping

/-- The type of the reply to a call. A registration answers whether it replaced a listener, a removal
whether there was one, a start or a stop whether it changed anything, a refresh how much it loaded. -/
abbrev CollectionCall.Reply {C : Type} (Reply : C → Type) : CollectionCall C → Type
  | call inner | direct inner => Reply inner
  | register _ _ | unregister _ => Bool
  | startRefreshing | stopRefreshing | startSweeping | stopSweeping => Bool
  | refresh => Nat
  | setOnline _ | clearCache => Unit

/-- What can be asked of a collection, given the calls of its repository and of its store. -/
def Collection.handle {E N C : Type} [Entity E] {Reply : C → Type}
    (layered : Layers → Handler Reply (Layered E N)) (plain : Handler Reply (Backend E)) :
    Handler (CollectionCall.Reply Reply) (Collection E N)
  | .call call => do
    let layers := (← get).layers
    onLayered (layered layers call)
  | .direct call => onLayered (Layered.direct (plain call))
  | .setOnline online =>
    onLayered (Layered.direct (modify fun backend => { backend with online }))
  | .register name listener => modifyGet fun collection =>
    (collection.listeners.contains name,
      { collection with listeners := collection.listeners.insert name listener })
  | .unregister name => modifyGet fun collection =>
    (collection.listeners.contains name,
      { collection with listeners := collection.listeners.erase name })
  | .clearCache => onLayered (Layered.belowNotices (Cached.change fun _ cache => cache.clear))
  | .refresh => Collection.refresh
  | .startRefreshing => turnRefresher started
  | .stopRefreshing => turnRefresher stopped
  | .startSweeping => turnSweeper started
  | .stopSweeping => turnSweeper stopped

end Switchboard

/-
**A cache with a sweeper.**

A sweeper drops what has expired from a cache, once per interval while it is running.

* `CacheCall` — what is asked of a cache, and time passing.
* `SweptCache.step` — the clock, the reply and the cache after a call.
-/

import Switchboard.Cache
import Switchboard.Schedule.Periodic

namespace Switchboard

/-- A cache, and the worker that sweeps it if there is one. -/
structure SweptCache (E : Type) where
  cache : Cache E
  sweeper : Option Periodic := none

/-- What is asked of a cache, and time passing. -/
inductive CacheCall (E : Type) where
  | get (key : String)
  | put (key : String) (value : E) (lifetime : Option Nat)
  | evict (key : String)
  | clear
  | sweep
  | startSweeping
  | stopSweeping
  | advance (millis : Nat)

/-- The type of the reply to a call. A sweep answers how much it dropped, a start or a stop whether it
changed anything. -/
abbrev CacheCall.Reply {E : Type} : CacheCall E → Type
  | get _ => Option E
  | sweep => Nat
  | startSweeping | stopSweeping => Bool
  | put _ _ _ | evict _ | clear | advance _ => Unit

namespace SweptCache

variable {E : Type}

/-- The sweeps that are due. -/
def run (now : Nat) (swept : SweptCache E) : SweptCache E :=
  match swept.sweeper with
  | none => swept
  | some sweeper =>
    let (ticks, worker) := sweeper.tickCount now
    { cache := Nat.repeat (fun cache => (cache.sweep now).2) ticks swept.cache, sweeper := some worker }

instance : Timed (SweptCache E) where
  due? swept := swept.sweeper.bind Periodic.due?
  run moment swept := swept.run moment.clock

/-- A sweeper is running. -/
def isSweeping (swept : SweptCache E) : Bool := swept.sweeper.any Periodic.isRunning

/-- The clock, the reply and the cache after a call. -/
def step (wall : Nat → Time.Instant) (now : Nat) (swept : SweptCache E) :
    (call : CacheCall E) → Nat × call.Reply × SweptCache E
  | .get key =>
    let (value, cache) := swept.cache.get now key
    (now, value, { swept with cache })
  | .put key value lifetime =>
    (now, (), { swept with cache := swept.cache.put now key value lifetime })
  | .evict key => (now, (), { swept with cache := swept.cache.evict key })
  | .clear => (now, (), { swept with cache := swept.cache.clear })
  | .sweep =>
    let (removed, cache) := swept.cache.sweep now
    (now, removed, { swept with cache })
  | .startSweeping =>
    match swept.sweeper with
    | none => (now, false, swept)
    | some sweeper =>
      let (started, worker) := sweeper.start now
      (now, started, ({ swept with sweeper := some worker }).run now)
  | .stopSweeping =>
    match swept.sweeper with
    | none => (now, false, swept)
    | some sweeper =>
      (now, sweeper.isRunning, { swept with sweeper := some (sweeper.stop now).1 })
  | .advance millis => (now + millis, (), Timed.advance wall now (now + millis) swept)

end SweptCache

end Switchboard

/-
**A dispatcher of jobs.**

Jobs wait in one queue of bounded length and are begun in the order in which they were accepted, by a
fixed number of workers. A job that is ready at once ends in the step in which it begins; a job that
takes time ends when it is done or when its time is up, whichever comes first. A job that is accepted
is never lost: it ends as completed, failed or timed out.

* `Dispatcher.offer` — a job is accepted, or dropped if the queue is full or closed.
* `Dispatcher.settle` — idle workers take jobs; `Dispatcher.run` — first, jobs whose time has come end.
* `Dispatcher.drainTime` — the time at which a closed dispatcher has no job left.
* `Dispatcher.step` — jobs offered, time passing, and the end of it all.
-/

import Switchboard.Schedule.Timeline

namespace Switchboard

/-- What comes of a job that ends by itself. -/
inductive Exit where
  | succeeds
  | fails
  | panics
  deriving DecidableEq, Repr

/-- When a job ends by itself, and what comes of it then. -/
inductive Ending where
  | atOnce (exit : Exit)
  | after (millis : Nat) (exit : Exit)
  | never
  deriving DecidableEq, Repr

/-- Work with the way it ends. -/
structure Job (P : Type) where
  payload : P
  ending : Ending
  deriving DecidableEq

/-- A job in progress: when it ends, and what comes of it then; nothing does if its time is up. -/
structure RunningJob (P : Type) where
  payload : P
  endsAt : Nat
  exit : Option Exit
  deriving DecidableEq

/-- What happened to the jobs offered so far. -/
structure DispatchStats where
  dispatched : Nat := 0
  completed : Nat := 0
  failed : Nat := 0
  timedOut : Nat := 0
  dropped : Nat := 0
  deriving DecidableEq, Repr

/-- The counters after a job that ended by itself. -/
def DispatchStats.conclude (stats : DispatchStats) : Exit → DispatchStats
  | .succeeds => { stats with completed := stats.completed + 1 }
  | .fails | .panics => { stats with failed := stats.failed + 1 }

/-- The text that shows counters. -/
def DispatchStats.describe (stats : DispatchStats) : String :=
  "DispatchStats \x7b dispatched: " ++ Number.writeNat stats.dispatched ++ ", completed: " ++
    Number.writeNat stats.completed ++ ", failed: " ++ Number.writeNat stats.failed ++
    ", timed_out: " ++ Number.writeNat stats.timedOut ++ ", dropped: " ++
    Number.writeNat stats.dropped ++ " \x7d"

/-- The beginning of a job, or the end of one that took time and was done in time. -/
inductive Occurrence (P : Type) where
  | began (payload : P)
  | finished (payload : P)
  deriving DecidableEq

/-- Workers and the queue they take jobs from. `occurrences` is a record, the oldest first. -/
structure Dispatcher (P : Type) where
  workers : Nat
  capacity : Nat
  timeout : Nat
  queue : List (Job P) := []
  running : List (RunningJob P) := []
  stats : DispatchStats := {}
  isShutDown : Bool := false
  occurrences : List (Occurrence P) := []

/-- What is asked of a dispatcher: to take jobs, to let time pass, or to shut down. -/
inductive DispatcherCall (P : Type) where
  | offer (jobs : List (Job P))
  | advance (millis : Nat)
  | shutDown

namespace Dispatcher

variable {P : Type}

/-- A dispatcher without jobs; it has at least one worker and room for at least one job. -/
def new (workers capacity timeout : Nat) : Dispatcher P :=
  { workers := max workers 1, capacity := max capacity 1, timeout }

/-- Adds to the record. -/
def note (dispatcher : Dispatcher P) (occurrence : Occurrence P) : Dispatcher P :=
  { dispatcher with occurrences := dispatcher.occurrences ++ [occurrence] }

/-- Changes the counters. -/
def tally (dispatcher : Dispatcher P) (change : DispatchStats → DispatchStats) : Dispatcher P :=
  { dispatcher with stats := change dispatcher.stats }

/-- Accepts a job if the queue is open and has room, and drops it otherwise. -/
def offer (dispatcher : Dispatcher P) (job : Job P) : Bool × Dispatcher P :=
  if dispatcher.isShutDown || dispatcher.capacity ≤ dispatcher.queue.length then
    (false, dispatcher.tally fun stats => { stats with dropped := stats.dropped + 1 })
  else
    (true, { dispatcher with queue := dispatcher.queue ++ [job] }.tally fun stats =>
      { stats with dispatched := stats.dispatched + 1 })

/-- Offers jobs one after the other. -/
def offerAll (dispatcher : Dispatcher P) : List (Job P) → List Bool × Dispatcher P
  | [] => ([], dispatcher)
  | job :: rest =>
    let (accepted, dispatcher) := dispatcher.offer job
    let (answers, dispatcher) := dispatcher.offerAll rest
    (accepted :: answers, dispatcher)

/-- Ends a job in progress. -/
def finish (dispatcher : Dispatcher P) (job : RunningJob P) : Dispatcher P :=
  match job.exit with
  | some exit => (dispatcher.note (.finished job.payload)).tally (·.conclude exit)
  | none => dispatcher.tally fun stats => { stats with timedOut := stats.timedOut + 1 }

/-- Keeps a job in progress, or ends it if its end is now. -/
def hold (dispatcher : Dispatcher P) (now : Nat) (job : RunningJob P) : Dispatcher P :=
  if job.endsAt ≤ now then dispatcher.finish job
  else { dispatcher with running := dispatcher.running ++ [job] }

/-- Begins a job on an idle worker. -/
def begin (dispatcher : Dispatcher P) (now : Nat) (job : Job P) : Dispatcher P :=
  let begun := dispatcher.note (.began job.payload)
  let limit := now + dispatcher.timeout
  match job.ending with
  | .atOnce exit => begun.tally (·.conclude exit)
  | .after millis exit =>
    begun.hold now
      ⟨job.payload, min (now + millis) limit, if dispatcher.timeout < millis then none else some exit⟩
  | .never => begun.hold now ⟨job.payload, limit, none⟩

/-- Idle workers take jobs from the front of a queue. -/
def assign (now : Nat) : List (Job P) → Dispatcher P → Dispatcher P
  | [], dispatcher => { dispatcher with queue := [] }
  | job :: rest, dispatcher =>
    if dispatcher.running.length < dispatcher.workers then assign now rest (dispatcher.begin now job)
    else { dispatcher with queue := job :: rest }

/-- Idle workers take jobs until no worker is idle or no job is left. -/
def settle (dispatcher : Dispatcher P) (now : Nat) : Dispatcher P :=
  assign now dispatcher.queue dispatcher

/-- Ends the first job in progress whose time has come; its worker goes on with the queue. -/
def expireOne (now : Nat) (dispatcher : Dispatcher P) : Dispatcher P :=
  match dispatcher.running.find? fun job => job.endsAt ≤ now with
  | some job =>
    ({ dispatcher with running := dispatcher.running.eraseP fun job => job.endsAt ≤ now }.finish
      job).settle now
  | none => dispatcher

/-- Jobs whose time has come end, and idle workers take jobs. -/
def run (dispatcher : Dispatcher P) (now : Nat) : Dispatcher P :=
  (Nat.repeat (expireOne now) dispatcher.running.length dispatcher).settle now

/-- The time at which the next job in progress ends. -/
def due? (dispatcher : Dispatcher P) : Option Nat := (dispatcher.running.map RunningJob.endsAt).min?

instance : Timed (Dispatcher P) where
  due? := due?
  run moment dispatcher := dispatcher.run moment.clock

/-- Closes the queue: from now on every job is dropped. -/
def close (dispatcher : Dispatcher P) : Dispatcher P := { dispatcher with isShutDown := true }

/-- The time at which the last of at most `jobs` jobs has ended. -/
def drainTimeFrom : (jobs now : Nat) → Dispatcher P → Nat
  | 0, now, _ => now
  | jobs + 1, now, dispatcher =>
    match dispatcher.due? with
    | some time =>
      let next := max time now
      drainTimeFrom jobs next (dispatcher.run next)
    | none => now

/-- The time at which a dispatcher that takes no more jobs has none left. -/
def drainTime (dispatcher : Dispatcher P) (now : Nat) : Nat :=
  drainTimeFrom (dispatcher.queue.length + dispatcher.running.length) now (dispatcher.settle now)

/-- Closes the queue and waits until no job is left; a dispatcher that is closed returns at once. -/
def shutDown (wall : Nat → Time.Instant) (now : Nat) (dispatcher : Dispatcher P) :
    Nat × Dispatcher P :=
  if dispatcher.isShutDown then (now, dispatcher)
  else
    let closed := dispatcher.close.settle now
    let finish := closed.drainTime now
    (finish, Timed.advance wall now finish closed)

/-- The clock, whether each job offered was accepted, and the dispatcher after a call. -/
def step (wall : Nat → Time.Instant) (now : Nat) (dispatcher : Dispatcher P) :
    DispatcherCall P → Nat × List Bool × Dispatcher P
  | .offer jobs =>
    let (answers, offered) := dispatcher.offerAll jobs
    (now, answers, offered.run now)
  | .advance millis => (now + millis, [], Timed.advance wall now (now + millis) dispatcher)
  | .shutDown =>
    let (finish, closed) := dispatcher.shutDown wall now
    (finish, [], closed)

/-- The record, and the dispatcher with an empty one. -/
def collect (dispatcher : Dispatcher P) : List (Occurrence P) × Dispatcher P :=
  (dispatcher.occurrences, { dispatcher with occurrences := [] })

/-- The text that shows a dispatcher. -/
def describe (dispatcher : Dispatcher P) : String :=
  "Dispatcher \x7b task_timeout: " ++ Time.writeSpan dispatcher.timeout ++ ", stats: " ++
    dispatcher.stats.describe ++ " \x7d"

end Dispatcher

end Switchboard

/-
**Periodic workers.**

A worker that has been started ticks when its delay has passed and from then on once per period. A
tick that begins for a deadline `d` sets the next deadline to `d + period` if it begins at most five
milliseconds late, and to one period after its beginning otherwise; a period of more than thirty years
counts as thirty years. Ticks do not overlap: a deadline that passes during a tick is met as soon as
the tick has ended.

* `Periodic.start`, `Periodic.stop` — a stop waits for the tick in progress.
* `Periodic.run` — the ticks that are due.
* `Worker` — a worker together with the lengths of its ticks and a record of them.
-/

import Switchboard.Schedule.Timeline
import Switchboard.Text.Quoted

namespace Switchboard

/-- The state of a worker that has been started: its next deadline, and the end of the tick in
progress. -/
structure Loop where
  deadline : Nat
  busyUntil : Option Nat := none
  deriving DecidableEq, Repr

/-- Something that is done once per period. `begun` counts the ticks of all its runs. -/
structure Periodic where
  delay : Nat
  period : Nat
  loop : Option Loop := none
  begun : Nat := 0
  period_pos : 0 < period
  deriving DecidableEq, Repr

/-- The beginning or the end of a tick. -/
inductive TickMark where
  | began (time : Nat)
  | ended (time : Nat)
  deriving DecidableEq, Repr

/-- How late a tick may begin without the schedule being moved. -/
def tolerance : Nat := 5

/-- The longest time from one deadline to the next: thirty years of 365 days. -/
def longestWait : Nat := 30 * 365 * 24 * 60 * 60 * 1000

/-- The deadline after one for which a tick begins now. -/
def nextDeadline (period now deadline : Nat) : Nat :=
  (if now ≤ deadline + tolerance then deadline else now) + min period longestWait

/-- Deadlines increase. -/
theorem lt_nextDeadline {period now deadline : Nat} (positive : 0 < period) (due : deadline ≤ now) :
    deadline < nextDeadline period now deadline := by
  have wait : 0 < min period longestWait := Nat.lt_min.mpr ⟨positive, by decide⟩
  unfold nextDeadline
  split <;> omega

namespace Periodic

/-- A worker that is not running, with a period of at least a millisecond. -/
def new (delay period : Nat) : Periodic :=
  { delay, period := max period 1, period_pos := by omega }

/-- The worker has been started and not stopped since. -/
def isRunning (worker : Periodic) : Bool := worker.loop.isSome

/-- The time at which the worker has something to do. -/
def due? (worker : Periodic) : Option Nat :=
  worker.loop.map fun loop => loop.busyUntil.getD loop.deadline

/-- Starts a worker that is not running; whether it was started. -/
def start (worker : Periodic) (now : Nat) : Bool × Periodic :=
  match worker.loop with
  | some _ => (false, worker)
  | none => (true, { worker with loop := some ⟨now + worker.delay, none⟩ })

/-- Begins the ticks that are due, up to one that takes time. -/
def beginTicks (worker : Periodic) (lasts : Nat → Nat) (now deadline : Nat) :
    Periodic × List TickMark :=
  if due : deadline ≤ now then
    let next := nextDeadline worker.period now deadline
    have : now + 1 - next < now + 1 - deadline := by
      have := lt_nextDeadline worker.period_pos due
      omega
    let length := lasts worker.begun
    let ticked := { worker with begun := worker.begun + 1 }
    if length = 0 then
      let (worker, marks) := beginTicks ticked lasts now next
      (worker, .began now :: marks)
    else ({ ticked with loop := some ⟨next, some (now + length)⟩ }, [.began now])
  else ({ worker with loop := some ⟨deadline, none⟩ }, [])
termination_by now + 1 - deadline

/-- Everything the worker has to do by now; the tick with number `n` takes `lasts n` milliseconds. -/
def run (worker : Periodic) (lasts : Nat → Nat) (now : Nat) : Periodic × List TickMark :=
  match worker.loop with
  | none => (worker, [])
  | some ⟨deadline, none⟩ => worker.beginTicks lasts now deadline
  | some ⟨deadline, some finish⟩ =>
    if finish ≤ now then
      let (worker, marks) := worker.beginTicks lasts now deadline
      (worker, .ended now :: marks)
    else (worker, [])

/-- The time at which a stop asked for now returns. -/
def stopTime (worker : Periodic) (now : Nat) : Nat :=
  match worker.loop.bind Loop.busyUntil with
  | some finish => max now finish
  | none => now

/-- Stops a worker; the end of a tick in progress is noted. -/
def stop (worker : Periodic) (now : Nat) : Periodic × List TickMark :=
  ({ worker with loop := none },
    if (worker.loop.bind Loop.busyUntil).isSome then [.ended (worker.stopTime now)] else [])

/-- The ticks that a worker with ticks that take no time begins by now, and the worker after them. -/
def tickCount (worker : Periodic) (now : Nat) : Nat × Periodic :=
  let (ticked, marks) := worker.run (fun _ => 0) now
  (marks.length, ticked)

/-- The text that shows a worker. -/
def describe (name : String) (worker : Periodic) : String :=
  "PeriodicWorker \x7b name: " ++ Text.quoted name ++ ", initial_delay: " ++
    Time.writeSpan worker.delay ++ ", period: " ++ Time.writeSpan worker.period ++ ", running: " ++
    (if worker.isRunning then "true" else "false") ++ " \x7d"

end Periodic

/-- A worker together with the lengths of its ticks and a record of them. -/
structure Worker where
  periodic : Periodic
  lasts : Nat → Nat
  marks : List TickMark := []

/-- What is asked of a worker: a start, a stop, time passing, or the clock jumping ahead so that what
was due on the way comes late. -/
inductive WorkerCall where
  | start
  | stop
  | advance (millis : Nat)
  | jump (millis : Nat)
  deriving DecidableEq, Repr

namespace Worker

/-- Everything the worker has to do by now. -/
def run (worker : Worker) (now : Nat) : Worker :=
  let (periodic, marks) := worker.periodic.run worker.lasts now
  { worker with periodic, marks := worker.marks ++ marks }

instance : Timed Worker where
  due? worker := worker.periodic.due?
  run moment worker := worker.run moment.clock

/-- The clock, the answer and the worker after a call; a call other than a start or a stop answers
nothing. -/
def step (wall : Nat → Time.Instant) (now : Nat) (worker : Worker) :
    WorkerCall → Nat × Option Bool × Worker
  | .start =>
    let (started, periodic) := worker.periodic.start now
    (now, some started, ({ worker with periodic }).run now)
  | .stop =>
    let (periodic, marks) := worker.periodic.stop now
    (worker.periodic.stopTime now, some worker.periodic.isRunning,
      { worker with periodic, marks := worker.marks ++ marks })
  | .advance millis => (now + millis, none, Timed.advance wall now (now + millis) worker)
  | .jump millis => (now + millis, none, worker.run (now + millis))

end Worker

end Switchboard

/-
**The schedule of a periodic worker.**

A worker is started and stopped, and time passes, in any order; its ticks take any time.

* `WorkerHistory` — the clock, the worker and the chronicle of what it did; `WorkerHistory.step`,
  `WorkerHistory.run` — the history after calls.
* `WorkerHistory.Sound` — the chronicle describes the worker; every call but a jump of the clock keeps a history sound.
* `WorkerHistory.Scheduled` — ticks do not overlap and keep the schedule, a start and a stop answer whether they did
  something, and a stop waits for the tick in progress.
* `WorkerHistory.ticks_keep_the_schedule` — so it is in every history without jumps; the wait between ticks is the
  period, but a period of more than thirty years is cut (`WorkerHistory.long_periods_are_cut`).
-/

import Switchboard.Proofs.Schedule.Chronicle

namespace Switchboard

/-- The clock, a worker and the chronicle of its rounds. -/
structure WorkerHistory where
  clock : Nat
  worker : Worker
  chronicle : Chronicle := []

namespace WorkerHistory

/-- A worker that has not been started, with the lengths of its ticks. -/
def new (clock delay period : Nat) (lasts : Nat → Nat) : WorkerHistory :=
  { clock, worker := { periodic := Periodic.new delay period, lasts } }

/-- A round is going on. -/
def isRunning (history : WorkerHistory) : Bool := history.chronicle.any fun round => round.stoppedAt.isNone

/-- The answer to a call, and the history after it: a start that was answered with yes opens a round, and a stop
that was answered with yes closes it when it returns. -/
def step (wall : Nat → Time.Instant) (history : WorkerHistory) (call : WorkerCall) :
    Option Bool × WorkerHistory :=
  let (clock, answer, worker) := Worker.step wall history.clock { history.worker with marks := [] } call
  let opened := if call = .start ∧ answer = some true then { startedAt := history.clock } :: history.chronicle
    else history.chronicle
  let noted := Chronicle.of opened worker
  let chronicle := if call = .stop ∧ answer = some true then noted.close clock else noted
  (answer, { clock, worker, chronicle })

/-- The history after calls, one after the other. -/
def run (wall : Nat → Time.Instant) (history : WorkerHistory) (calls : List WorkerCall) : WorkerHistory :=
  calls.foldl (fun history call => (history.step wall call).2) history

/-! ### Sound histories -/

variable {wall : Nat → Time.Instant} {delay wait : Nat} {lasts : Nat → Nat} {history : WorkerHistory}

/-- **The chronicle of a history describes its worker.** -/
def Sound (delay wait : Nat) (history : WorkerHistory) : Prop :=
  Chronicle.Sound delay wait history.clock history.chronicle history.worker.periodic

/-- The ticks of a history take the time that is given. -/
def Lasting (lasts : Nat → Nat) (history : WorkerHistory) : Prop :=
  history.worker.lasts = lasts ∧ history.chronicle.Lasting lasts

theorem sound_new (clock delay period : Nat) (lasts : Nat → Nat) :
    (new clock delay period lasts).Sound delay (min (max period 1) longestWait) :=
  ⟨rfl, rfl, rfl, .idle trivial⟩

/-- A start of a worker that is not running opens a round, in which the ticks that are due begin. -/
theorem step_start_idle (idle : history.worker.periodic.loop = none) :
    let started := Periodic.beginTicks { history.worker.periodic with
        loop := some ⟨history.clock + history.worker.periodic.delay, none⟩ } history.worker.lasts history.clock
      (history.clock + history.worker.periodic.delay)
    history.step wall .start = (some true,
      { clock := history.clock
        worker := { history.worker with periodic := started.1, marks := started.2 }
        chronicle := started.2.foldl (Chronicle.note history.worker.lasts)
          ({ startedAt := history.clock } :: history.chronicle) }) := by
  unfold step Worker.step Periodic.start
  rw [idle]
  rfl

theorem step_start_running {loop : Loop} (running : history.worker.periodic.loop = some loop)
    (ahead : history.worker.periodic.Ahead history.clock) :
    history.step wall .start = (some false, { history with worker := { history.worker with marks := [] } }) := by
  unfold step Worker.step Periodic.start
  rw [running]
  dsimp only [Worker.run]
  rw [Periodic.run_of_ahead ahead]
  rfl

/-- A stop of a worker that is not running does nothing. -/
theorem step_stop_idle (idle : history.worker.periodic.loop = none) :
    history.step wall .stop = (some false, { history with worker := { history.worker with marks := [] } }) := by
  obtain ⟨clock, ⟨periodic, lasts, marks⟩, chronicle⟩ := history
  obtain ⟨delay, period, loop, begun, positive⟩ := periodic
  cases idle
  rfl

/-- A stop between two ticks returns at once. -/
theorem step_stop_resting {deadline : Nat} (rests : history.worker.periodic.loop = some ⟨deadline, none⟩) :
    history.step wall .stop = (some true,
      { clock := history.clock
        worker := { history.worker with periodic := { history.worker.periodic with loop := none }, marks := [] }
        chronicle := history.chronicle.close history.clock }) := by
  obtain ⟨clock, ⟨periodic, lasts, marks⟩, chronicle⟩ := history
  obtain ⟨delay, period, loop, begun, positive⟩ := periodic
  cases rests
  rfl

/-- A stop during a tick returns when the tick ends. -/
theorem step_stop_busy {deadline finish : Nat}
    (busy : history.worker.periodic.loop = some ⟨deadline, some finish⟩) (ahead : history.clock < finish) :
    history.step wall .stop = (some true,
      { clock := finish
        worker := { history.worker with
          periodic := { history.worker.periodic with loop := none }, marks := [.ended finish] }
        chronicle :=
          (Chronicle.note history.worker.lasts history.chronicle (.ended finish)).close finish }) := by
  obtain ⟨clock, ⟨periodic, lasts, marks⟩, chronicle⟩ := history
  obtain ⟨delay, period, loop, begun, positive⟩ := periodic
  cases busy
  have later : max clock finish = finish := Nat.max_eq_right (Nat.le_of_lt ahead)
  unfold step Worker.step Periodic.stop Periodic.stopTime
  dsimp only [Option.bind_some]
  rw [later]
  rfl

/-- A round whose ticks have ended is over when it is stopped. -/
theorem closed_of_free {round : Round} {time : Nat} (regular : round.Regular delay wait)
    (ends : round.ends = round.ticks.map Tick.finish) (free : round.free ≤ time) :
    Round.Closed delay wait time { round with stoppedAt := some time } where
  regular := regular.of_same rfl rfl
  ends := ends
  stopped := ⟨time, rfl, Nat.le_refl time, Nat.le_trans regular.startedAt_le_free free,
    fun _ listed => Nat.le_trans (regular.finish_le_free listed) free⟩

/-! ### Calls keep histories sound -/

theorem Sound.start (sound : history.Sound delay wait) :
    (history.step wall .start).2.Sound delay wait := by
  rcases Chronicle.Sound.shape sound with ⟨idle, closed⟩ | ⟨_, _, loop, _, going, _⟩
  · have complete : (Chronicle.ticks ({ startedAt := history.clock } :: history.chronicle)).length =
        history.worker.periodic.begun := by
      unfold Chronicle.ticks
      rw [List.append_nil, sound.complete]
    have rests : Round.Rests delay wait history.clock { startedAt := history.clock }
        (history.clock + history.worker.periodic.delay) :=
      sound.sameDelay ▸ Round.rests_new _ wait history.clock
    rw [step_start_idle idle]
    exact Chronicle.sound_beginTicks rests sound.sameDelay sound.sameWait complete closed
  · rw [step_start_running going (Chronicle.Sound.ahead sound)]
    exact sound

theorem Sound.stop (sound : history.Sound delay wait) :
    (history.step wall .stop).2.Sound delay wait := by
  have complete := sound.complete
  rcases Chronicle.Sound.shape sound with
    ⟨idle, _⟩ | ⟨round, past, ⟨deadline, busyUntil⟩, same, going, closed, tracks⟩
  · rw [step_stop_idle idle]
    exact sound
  · rw [same] at complete
    cases busyUntil with
    | none =>
      have ends : round.ends = round.ticks.map Tick.finish := (List.append_nil _).symm.trans tracks.ends
      rw [step_stop_resting going, same]
      refine ⟨sound.sameDelay, sound.sameWait, complete, .idle ⟨?_, closed⟩⟩
      exact closed_of_free tracks.planned.regular ends (tracks.rested rfl)
    | some finish =>
      have free : round.free = finish := Round.free_of_busy tracks.ends
      rw [step_stop_busy going tracks.ahead, same, Chronicle.note_ended tracks.opened]
      refine ⟨sound.sameDelay, sound.sameWait, complete, .idle ⟨?_, closed⟩⟩
      exact closed_of_free (tracks.planned.finish finish).regular tracks.ends (Nat.le_of_eq free)

theorem Sound.advance (sound : history.Sound delay wait) (millis : Nat) :
    (history.step wall (.advance millis)).2.Sound delay wait := by
  have start : Chronicle.Sound delay wait history.clock
      (history.chronicle.of { history.worker with marks := [] }) history.worker.periodic := sound
  exact Chronicle.sound_advance (Nat.le_add_right history.clock millis) start

/-- **Every call but a jump of the clock keeps a history sound.** -/
theorem Sound.step (sound : history.Sound delay wait) {call : WorkerCall}
    (steady : ∀ millis, call ≠ .jump millis) : (history.step wall call).2.Sound delay wait := by
  cases call with
  | start => exact sound.start
  | stop => exact sound.stop
  | advance millis => exact sound.advance millis
  | jump millis => exact absurd rfl (steady millis)

/-- Every call keeps the lengths of the ticks. -/
theorem Lasting.step (lasting : history.Lasting lasts) (call : WorkerCall) :
    (history.step wall call).2.Lasting lasts := by
  obtain ⟨same, lasting⟩ := lasting
  have kept : (Worker.step wall history.clock { history.worker with marks := [] } call).2.2.lasts = lasts := by
    refine Eq.trans ?_ same
    cases call with
    | start | stop | jump millis => rfl
    | advance millis =>
      exact Timed.advance_keeps (fun worker : Worker => worker.lasts = history.worker.lasts)
        (fun _ _ same => same) rfl
  have opened : ∀ condition : Prop, [Decidable condition] →
      Chronicle.Lasting lasts (if condition then { startedAt := history.clock } :: history.chronicle
        else history.chronicle) := by
    intro condition _
    split
    · exact lasting.of_same (List.append_nil _)
    · exact lasting
  have closed : ∀ {chronicle : Chronicle} (condition : Prop) [Decidable condition] (time : Nat),
      chronicle.Lasting lasts → Chronicle.Lasting lasts (if condition then chronicle.close time else chronicle) := by
    intro chronicle condition _ time lasting
    split
    · exact lasting.of_same (Chronicle.ticks_close chronicle time)
    · exact lasting
  exact ⟨kept, closed _ _ ((opened _).of kept)⟩

theorem Sound.run (sound : history.Sound delay wait) {calls : List WorkerCall}
    (steady : ∀ call ∈ calls, ∀ millis, call ≠ .jump millis) : (history.run wall calls).Sound delay wait := by
  induction calls generalizing history with
  | nil => exact sound
  | cons call rest ih =>
    obtain ⟨first, others⟩ := List.forall_mem_cons.mp steady
    exact ih (sound.step first) others

theorem Lasting.run (lasting : history.Lasting lasts) (calls : List WorkerCall) :
    (history.run wall calls).Lasting lasts := by
  induction calls generalizing history with
  | nil => exact lasting
  | cons call rest ih => exact ih (lasting.step call)

/-! ### What a history tells -/

/-- **Ticks keep the schedule.** -/
structure Scheduled (wall : Nat → Time.Instant) (delay wait : Nat) (lasts : Nat → Nat)
    (history : WorkerHistory) : Prop where
  /-- Every tick that ever began is in a round of the chronicle, so none began outside of a round. -/
  complete : history.chronicle.ticks.length = history.worker.periodic.begun
  /-- Every tick takes its time. -/
  lasting : history.chronicle.Lasting lasts
  /-- No tick begins before an earlier one has ended. -/
  serial : history.chronicle.ticks.Pairwise fun tick later => tick.finish ≤ later.begins
  /-- Every tick has ended, when its time was up, but at most one that is in progress. -/
  single : ∃ inProgress : Option Nat,
    history.chronicle.ends ++ inProgress.toList = history.chronicle.ticks.map Tick.finish ∧
      ∀ finish, inProgress = some finish → history.clock < finish
  /-- The ticks of every round begin when they are due. -/
  regular : ∀ round ∈ history.chronicle, round.Regular delay wait
  /-- The next tick of a round that is going on is not late. -/
  prompt : ∀ round ∈ history.chronicle, round.stoppedAt = none →
    (round.ticks = [] → history.clock < round.startedAt + delay) ∧
      ∀ tick, round.ticks.getLast? = some tick → history.clock < max tick.finish (tick.begins + wait)
  /-- When a round was stopped all of its ticks had ended. -/
  stopped : ∀ round ∈ history.chronicle, ∀ time, round.stoppedAt = some time →
    round.ends = round.ticks.map Tick.finish ∧ ∀ tick ∈ round.ticks, tick.finish ≤ time
  /-- Every round was stopped before the next one started. -/
  apart : history.chronicle.Pairwise fun later round =>
    ∃ time, round.stoppedAt = some time ∧ time ≤ later.startedAt
  /-- A start answers yes exactly if no round is going on. -/
  starts : (history.step wall .start).1 = some !history.isRunning
  /-- It opens a round then. -/
  opens : history.isRunning = false → ∃ round,
    (history.step wall .start).2.chronicle = round :: history.chronicle ∧ round.startedAt = history.clock
  /-- A stop answers yes exactly if a round is going on. -/
  stops : (history.step wall .stop).1 = some history.isRunning
  /-- It returns when no tick is in progress; none begins until then. -/
  returns : let after := (history.step wall .stop).2
    after.isRunning = false ∧ after.chronicle.ticks = history.chronicle.ticks ∧
      ∀ tick ∈ after.chronicle.ticks, tick.finish ≤ after.clock
  /-- While no round is going on no tick begins, until the next start. -/
  quiet : history.isRunning = false → ∀ calls : List WorkerCall, (∀ call ∈ calls, call ≠ .start) →
    (history.run wall calls).chronicle = history.chronicle ∧
      (history.run wall calls).worker.periodic.begun = history.worker.periodic.begun

section Tells

variable (sound : history.Sound delay wait)

include sound

theorem Sound.isRunning_eq : history.isRunning = history.worker.periodic.isRunning :=
  Chronicle.Sound.isRunning_eq sound

/-- **A start** answers yes and opens a round exactly if none is going on. -/
theorem Sound.starts : (history.step wall .start).1 = some !history.isRunning ∧
    (history.isRunning = false → ∃ round,
      (history.step wall .start).2.chronicle = round :: history.chronicle ∧
        round.startedAt = history.clock) := by
  rw [sound.isRunning_eq]
  unfold Periodic.isRunning
  rcases Chronicle.Sound.shape sound with ⟨idle, _⟩ | ⟨_, _, loop, _, going, _⟩
  · rw [step_start_idle idle, idle]
    exact ⟨rfl, fun _ => Chronicle.notes_cons _ _ _ _⟩
  · rw [step_start_running going (Chronicle.Sound.ahead sound), going]
    exact ⟨rfl, nofun⟩

/-- A stop begins no tick. -/
theorem Sound.ticks_stop :
    (history.step wall .stop).2.chronicle.ticks = history.chronicle.ticks := by
  rcases Chronicle.Sound.shape sound with
    ⟨idle, _⟩ | ⟨round, past, ⟨deadline, busyUntil⟩, same, going, _, tracks⟩
  · rw [step_stop_idle idle]
  · cases busyUntil with
    | none =>
      rw [step_stop_resting going]
      exact Chronicle.ticks_close _ _
    | some finish =>
      rw [step_stop_busy going tracks.ahead, same, Chronicle.note_ended tracks.opened]
      rfl

/-- **A stop** answers yes exactly if a round is going on, and returns when no tick is in progress. -/
theorem Sound.stops : (history.step wall .stop).1 = some history.isRunning ∧
    (history.step wall .stop).2.isRunning = false ∧
      ∀ tick ∈ (history.step wall .stop).2.chronicle.ticks, tick.finish ≤ (history.step wall .stop).2.clock := by
  have after : (history.step wall .stop).2.Sound delay wait := sound.stop
  have idle : (history.step wall .stop).2.worker.periodic.loop = none := rfl
  rw [sound.isRunning_eq, after.isRunning_eq]
  refine ⟨rfl, rfl, ?_⟩
  rcases Chronicle.Sound.shape after with ⟨_, closed⟩ | ⟨_, _, loop, _, going, _⟩
  · exact closed.tells.2.2
  · exact nomatch idle.symm.trans going

end Tells

/-- A worker that is not running does nothing until it is started. -/
theorem step_idle (idle : history.worker.periodic.loop = none) {call : WorkerCall} (other : call ≠ .start) :
    (history.step wall call).2.chronicle = history.chronicle ∧
      (history.step wall call).2.worker.periodic = history.worker.periodic := by
  cases call with
  | start => exact absurd rfl other
  | stop =>
    rw [step_stop_idle idle]
    exact ⟨rfl, rfl⟩
  | advance millis =>
    have nothing : Timed.due? { history.worker with marks := [] } = none := by
      show history.worker.periodic.due? = none
      unfold Periodic.due?
      rw [idle]
      rfl
    unfold step Worker.step
    dsimp only
    rw [Timed.advance_none nothing]
    exact ⟨rfl, rfl⟩
  | jump millis =>
    have nothing : history.worker.periodic.run history.worker.lasts (history.clock + millis) =
        (history.worker.periodic, []) := by
      unfold Periodic.run
      rw [idle]
    unfold step Worker.step Worker.run
    dsimp only
    rw [nothing]
    exact ⟨rfl, rfl⟩

theorem run_idle (idle : history.worker.periodic.loop = none) {calls : List WorkerCall}
    (others : ∀ call ∈ calls, call ≠ .start) :
    (history.run wall calls).chronicle = history.chronicle ∧
      (history.run wall calls).worker.periodic = history.worker.periodic := by
  induction calls generalizing history with
  | nil => exact ⟨rfl, rfl⟩
  | cons call rest ih =>
    obtain ⟨first, later⟩ := List.forall_mem_cons.mp others
    obtain ⟨sameChronicle, sameWorker⟩ : (history.step wall call).2.chronicle = history.chronicle ∧
        (history.step wall call).2.worker.periodic = history.worker.periodic := step_idle idle first
    obtain ⟨chronicle, worker⟩ := ih ((congrArg Periodic.loop sameWorker).trans idle) later
    exact ⟨chronicle.trans sameChronicle, worker.trans sameWorker⟩

/-- **A sound history tells that ticks keep the schedule.** -/
theorem Sound.scheduled (sound : history.Sound delay wait) (lasting : history.Lasting lasts) :
    history.Scheduled wall delay wait lasts where
  complete := sound.complete
  lasting := lasting.2
  serial := Chronicle.Sound.serial sound
  single := Chronicle.Sound.single sound
  regular := Chronicle.Sound.regular sound
  prompt := Chronicle.Sound.prompt sound
  stopped := Chronicle.Sound.stopped sound
  apart := Chronicle.Sound.apart sound
  starts := sound.starts.1
  opens := sound.starts.2
  stops := sound.stops.1
  returns := ⟨sound.stops.2.1, sound.ticks_stop, sound.stops.2.2⟩
  quiet stopped calls others := by
    rw [sound.isRunning_eq] at stopped
    have idle : history.worker.periodic.loop = none :=
      Option.not_isSome_iff_eq_none.mp (Bool.eq_false_iff.mp stopped)
    obtain ⟨chronicle, worker⟩ := run_idle idle others
    exact ⟨chronicle, congrArg Periodic.begun worker⟩

end WorkerHistory

end Switchboard

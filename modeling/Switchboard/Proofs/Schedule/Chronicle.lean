/-
**The chronicle of a periodic worker.**

A chronicle lists the rounds of a worker, the latest first. The marks that the worker leaves are noted in the round
that is going on; a mark outside of a round is not noted.

* `Chronicle.note` — a chronicle with one more mark.
* `Chronicle.Sound` — the chronicle describes the worker: every tick is in it, the rounds that are over are closed, and
  the one that is going on tracks the state of the worker, which has nothing left to do by now.
* `Chronicle.sound_beginTicks`, `Chronicle.sound_run`, `Chronicle.sound_advance` — ticks that begin, the things that are
  due, and the passing of time keep a chronicle sound.
-/

import Switchboard.Proofs.Schedule.Periodic
import Switchboard.Proofs.Schedule.Rounds
import Switchboard.Proofs.Schedule.Timeline

namespace Switchboard

/-- The rounds of a worker, the latest first. -/
abbrev Chronicle := List Round

namespace Chronicle

/-- The ticks of all rounds, the oldest first. -/
def ticks : Chronicle → List Tick
  | [] => []
  | round :: past => ticks past ++ round.ticks

/-- The ends of ticks of all rounds, the oldest first. -/
def ends : Chronicle → List Nat
  | [] => []
  | round :: past => ends past ++ round.ends

/-- A chronicle with one more mark; the tick with number `n` takes `lasts n` milliseconds. -/
def note (lasts : Nat → Nat) (chronicle : Chronicle) (mark : TickMark) : Chronicle :=
  match chronicle with
  | [] => []
  | round :: past =>
    if round.stoppedAt.isSome then round :: past
    else match mark with
      | .began time => round.begin ⟨time, lasts (ticks (round :: past)).length⟩ :: past
      | .ended time => round.finish time :: past

/-- The chronicle with its latest round stopped. -/
def close (chronicle : Chronicle) (time : Nat) : Chronicle :=
  match chronicle with
  | [] => []
  | round :: past => { round with stoppedAt := some time } :: past

/-- The chronicle of a worker with the marks that it has left since. -/
def of (chronicle : Chronicle) (worker : Worker) : Chronicle :=
  worker.marks.foldl (note worker.lasts) chronicle

variable {lasts : Nat → Nat} {round : Round} {past : Chronicle}

theorem ticks_close (chronicle : Chronicle) (time : Nat) : (chronicle.close time).ticks = chronicle.ticks := by
  cases chronicle <;> rfl

theorem note_began (opened : round.stoppedAt = none) (time : Nat) :
    note lasts (round :: past) (.began time) =
      round.begin ⟨time, lasts (ticks (round :: past)).length⟩ :: past := by
  refine if_neg ?_
  rw [opened]
  exact Bool.false_ne_true

theorem note_ended (opened : round.stoppedAt = none) (time : Nat) :
    note lasts (round :: past) (.ended time) = round.finish time :: past := by
  refine if_neg ?_
  rw [opened]
  exact Bool.false_ne_true

theorem note_stopped {time : Nat} (stopped : round.stoppedAt = some time) (mark : TickMark) :
    note lasts (round :: past) mark = round :: past := by
  refine if_pos ?_
  rw [stopped]
  rfl

/-- A mark changes no round but the latest, and not when it started. -/
theorem note_cons (lasts : Nat → Nat) (round : Round) (past : Chronicle) (mark : TickMark) :
    ∃ later, note lasts (round :: past) mark = later :: past ∧ later.startedAt = round.startedAt := by
  cases stopped : round.stoppedAt with
  | some time => exact ⟨round, note_stopped stopped mark, rfl⟩
  | none =>
    cases mark with
    | began time => exact ⟨_, note_began stopped time, rfl⟩
    | ended time => exact ⟨_, note_ended stopped time, rfl⟩

theorem notes_cons (lasts : Nat → Nat) (round : Round) (past : Chronicle) (marks : List TickMark) :
    ∃ later, marks.foldl (note lasts) (round :: past) = later :: past ∧
      later.startedAt = round.startedAt := by
  induction marks generalizing round with
  | nil => exact ⟨round, rfl, rfl⟩
  | cons mark rest ih =>
    obtain ⟨later, noted, same⟩ := note_cons lasts round past mark
    obtain ⟨latest, others, sameLater⟩ := ih later
    rw [List.foldl_cons, noted]
    exact ⟨latest, others, sameLater.trans same⟩

end Chronicle

/-! ### Rounds that are over and rounds that are going on -/

namespace Round

variable {delay wait now next : Nat} {round : Round} {loop : Loop}

/-- A round is over: it was stopped by a given time, when all of its ticks had ended. -/
structure Closed (delay wait bound : Nat) (round : Round) : Prop where
  regular : round.Regular delay wait
  ends : round.ends = round.ticks.map Tick.finish
  stopped : ∃ time, round.stoppedAt = some time ∧ time ≤ bound ∧ round.startedAt ≤ time ∧
    ∀ tick ∈ round.ticks, tick.finish ≤ time

/-- A round is going on: it agrees with the state of the worker, which has nothing left to do by now. -/
structure Tracks (delay wait now : Nat) (round : Round) (loop : Loop) : Prop where
  opened : round.stoppedAt = none
  planned : round.Planned delay wait loop.deadline
  /-- All ticks have ended but for the one in progress. -/
  ends : round.ends ++ loop.busyUntil.toList = round.ticks.map Tick.finish
  rested : loop.busyUntil = none → round.free ≤ now
  ahead : now < loop.busyUntil.getD loop.deadline

/-- No tick of a round is in progress, and it is not too late for the next one. -/
structure Rests (delay wait now : Nat) (round : Round) (deadline : Nat) : Prop where
  opened : round.stoppedAt = none
  planned : round.Planned delay wait deadline
  ends : round.ends = round.ticks.map Tick.finish
  rested : round.free ≤ now
  prompt : now ≤ max round.free deadline

/-- The worker is free when the tick in progress ends. -/
theorem free_of_busy {finish : Nat} (ends : round.ends ++ [finish] = round.ticks.map Tick.finish) :
    round.free = finish := by
  have last : (round.ticks.map Tick.finish).getLast? = some finish := by
    rw [← ends, List.getLast?_concat]
  rw [List.getLast?_map] at last
  unfold free
  rw [last]
  rfl

/-- The first tick is not late. -/
theorem Tracks.first (tracks : round.Tracks delay wait now loop) (nothing : round.ticks = []) :
    now < round.startedAt + delay := by
  have ahead := tracks.ahead
  have ends := tracks.ends
  rw [nothing] at ends
  have idle : loop.busyUntil = none := Option.toList_eq_nil_iff.mp (List.append_eq_nil_iff.mp ends).2
  rw [idle] at ahead
  exact Nat.lt_of_lt_of_eq ahead (tracks.planned.first nothing)

/-- No other tick is late. -/
theorem Tracks.latest (tracks : round.Tracks delay wait now loop) (tick : Tick)
    (latest : round.ticks.getLast? = some tick) : now < max tick.finish (tick.begins + wait) := by
  have ahead := tracks.ahead
  have ends := tracks.ends
  have window := (tracks.planned.next tick latest).2
  cases busy : loop.busyUntil with
  | none =>
    rw [busy] at ahead
    have later : now < loop.deadline := ahead
    omega
  | some finish =>
    rw [busy] at ahead ends
    have later : now < finish := ahead
    have free : round.free = finish := free_of_busy ends
    have last : round.free = tick.finish := free_of_latest latest
    omega

/-- A round that starts has a deadline after the delay. -/
theorem rests_new (delay wait now : Nat) : Rests delay wait now { startedAt := now } (now + delay) where
  opened := rfl
  planned :=
    { regular :=
        { first := fun _ found => nomatch found
          next := fun _ _ _ found => nomatch found
          steady := fun _ _ _ found => nomatch found
          serial := .nil
          begins := fun _ listed => nomatch listed }
      first := fun _ => rfl
      next := fun _ found => nomatch found
      steady := fun _ => (Nat.zero_mul wait).symm ▸ rfl }
  ends := rfl
  rested := Nat.le_refl now
  prompt := Nat.le_max_left now _

/-- What is not due yet can wait. -/
theorem Tracks.later (tracks : round.Tracks delay wait now loop) (later : now ≤ next)
    (ahead : next < loop.busyUntil.getD loop.deadline) : round.Tracks delay wait next loop :=
  { tracks with rested := fun idle => Nat.le_trans (tracks.rested idle) later, ahead }

/-- The end of a tick does not change the plan. -/
theorem Planned.finish {deadline : Nat} (planned : round.Planned delay wait deadline) (time : Nat) :
    (round.finish time).Planned delay wait deadline where
  regular := planned.regular.of_same rfl rfl
  first := planned.first
  next := planned.next
  steady := planned.steady

/-- A tick that takes no time has ended as soon as it has begun. -/
theorem ends_begin_instant (ends : round.ends = round.ticks.map Tick.finish) {length : Nat}
    (instant : length = 0) :
    (round.begin ⟨now, length⟩).ends = (round.begin ⟨now, length⟩).ticks.map Tick.finish := by
  unfold begin
  rw [List.map_append, ← ends, instant]
  rfl

/-- A tick that takes time is the only one that has not ended. -/
theorem ends_begin_lasting (ends : round.ends = round.ticks.map Tick.finish) {length : Nat}
    (takes : length ≠ 0) :
    (round.begin ⟨now, length⟩).ends ++ [now + length] =
      (round.begin ⟨now, length⟩).ticks.map Tick.finish := by
  unfold begin
  dsimp only
  rw [if_neg takes, List.map_append, ← ends]
  rfl

end Round

/-! ### The lengths of ticks -/

namespace Chronicle

variable {lasts : Nat → Nat} {chronicle : Chronicle}

/-- The tick with number `n`, over all rounds, takes `lasts n` milliseconds. -/
def Lasting (lasts : Nat → Nat) (chronicle : Chronicle) : Prop :=
  ∀ (number : Nat) tick, chronicle.ticks[number]? = some tick → tick.lasts = lasts number

/-- A mark that is noted adds no tick, or one that takes its time. -/
theorem ticks_note (lasts : Nat → Nat) (chronicle : Chronicle) (mark : TickMark) :
    (chronicle.note lasts mark).ticks = chronicle.ticks ∨
      ∃ time, (chronicle.note lasts mark).ticks = chronicle.ticks ++ [⟨time, lasts chronicle.ticks.length⟩] := by
  cases chronicle with
  | nil => exact .inl rfl
  | cons round past =>
    cases stopped : round.stoppedAt with
    | some time => exact .inl (congrArg ticks (note_stopped stopped mark))
    | none =>
      cases mark with
      | began time =>
        refine .inr ⟨time, (congrArg ticks (note_began stopped time)).trans ?_⟩
        exact (List.append_assoc _ _ _).symm
      | ended time =>
        have same : ticks (round.finish time :: past) = ticks (round :: past) := rfl
        exact .inl ((congrArg ticks (note_ended stopped time)).trans same)

theorem Lasting.note (lasting : chronicle.Lasting lasts) (mark : TickMark) :
    (chronicle.note lasts mark).Lasting lasts := by
  intro number tick found
  rcases ticks_note lasts chronicle mark with same | ⟨time, grown⟩
  · rw [same] at found
    exact lasting number tick found
  · rw [grown] at found
    rcases Round.tick_of_concat found with old | ⟨rfl, rfl⟩
    · exact lasting number tick old
    · rfl

/-- Only the ticks matter. -/
theorem Lasting.of_same {other : Chronicle} (lasting : chronicle.Lasting lasts)
    (same : other.ticks = chronicle.ticks) : other.Lasting lasts := by
  unfold Lasting
  rw [same]
  exact lasting

theorem Lasting.notes (lasting : chronicle.Lasting lasts) (marks : List TickMark) :
    (marks.foldl (Chronicle.note lasts) chronicle).Lasting lasts := by
  induction marks generalizing chronicle with
  | nil => exact lasting
  | cons mark rest ih => exact ih (lasting.note mark)

theorem Lasting.of {worker : Worker} (lasting : chronicle.Lasting lasts) (same : worker.lasts = lasts) :
    (chronicle.of worker).Lasting lasts := by
  unfold Chronicle.of
  rw [same]
  exact lasting.notes worker.marks

end Chronicle

/-! ### Sound chronicles -/

namespace Chronicle

variable {delay wait now : Nat} {lasts : Nat → Nat} {periodic : Periodic} {round : Round} {past chronicle : Chronicle}

/-- The rounds of a chronicle are over, each before the next one started and the latest by a given time. -/
def Closed (delay wait : Nat) : Chronicle → Nat → Prop
  | [], _ => True
  | round :: past, bound => round.Closed delay wait bound ∧ Closed delay wait past round.startedAt

theorem Closed.later {next : Nat} (closed : Closed delay wait chronicle now) (later : now ≤ next) :
    Closed delay wait chronicle next := by
  cases chronicle with
  | nil => trivial
  | cons round past =>
    obtain ⟨⟨regular, ends, time, stopped, early, rest⟩, before⟩ := closed
    exact ⟨⟨regular, ends, time, stopped, Nat.le_trans early later, rest⟩, before⟩

/-- A chronicle agrees with the state of a worker. -/
inductive Describes (delay wait now : Nat) : Chronicle → Option Loop → Prop
  | idle {chronicle : Chronicle} (closed : Closed delay wait chronicle now) : Describes delay wait now chronicle none
  | going {round : Round} {past : Chronicle} {loop : Loop} (closed : Closed delay wait past round.startedAt)
    (tracks : round.Tracks delay wait now loop) : Describes delay wait now (round :: past) (some loop)

/-- **A chronicle describes a worker**, whose delay and wait are given. -/
structure Sound (delay wait now : Nat) (chronicle : Chronicle) (periodic : Periodic) : Prop where
  sameDelay : periodic.delay = delay
  sameWait : min periodic.period longestWait = wait
  complete : chronicle.ticks.length = periodic.begun
  describes : Describes delay wait now chronicle periodic.loop

/-- A worker that is not running has only rounds that are over; one that is running has one that goes on. -/
theorem Sound.shape (sound : Sound delay wait now chronicle periodic) :
    periodic.loop = none ∧ Closed delay wait chronicle now ∨
      ∃ round past loop, chronicle = round :: past ∧ periodic.loop = some loop ∧
        Closed delay wait past round.startedAt ∧ round.Tracks delay wait now loop := by
  have describes := sound.describes
  cases going : periodic.loop with
  | none =>
    rw [going] at describes
    cases describes with
    | idle closed => exact .inl ⟨rfl, closed⟩
  | some loop =>
    rw [going] at describes
    cases describes with
    | @going round past _ closed tracks => exact .inr ⟨round, past, loop, rfl, rfl, closed, tracks⟩

/-! ### What a sound chronicle tells -/

/-- The ticks of rounds that are over have ended, none of them overlaps another one, and all ended in time. -/
theorem Closed.tells (closed : Closed delay wait chronicle now) :
    chronicle.ends = chronicle.ticks.map Tick.finish ∧
      (chronicle.ticks.Pairwise fun tick later => tick.finish ≤ later.begins) ∧
      ∀ tick ∈ chronicle.ticks, tick.finish ≤ now := by
  induction chronicle generalizing now with
  | nil => exact ⟨rfl, .nil, fun _ listed => nomatch listed⟩
  | cons round past ih =>
    obtain ⟨⟨regular, ends, time, _, early, started, finished⟩, before⟩ := closed
    obtain ⟨endsBefore, serial, finishedBefore⟩ := ih before
    unfold Chronicle.ends Chronicle.ticks
    refine ⟨?_, List.pairwise_append.mpr ⟨serial, regular.serial, ?_⟩, ?_⟩
    · rw [List.map_append, endsBefore, ends]
    · exact fun tick old later new => Nat.le_trans (finishedBefore tick old) (regular.begins later new)
    · intro tick listed
      rcases List.mem_append.mp listed with old | new
      · have finish := finishedBefore tick old
        omega
      · exact Nat.le_trans (finished tick new) early

/-- What holds of every round that is over holds of all rounds that are. -/
theorem Closed.all {holds : Round → Prop} (each : ∀ round bound, round.Closed delay wait bound → holds round)
    (closed : Closed delay wait chronicle now) : ∀ round ∈ chronicle, holds round := by
  induction chronicle generalizing now with
  | nil => exact fun _ listed => nomatch listed
  | cons round past ih => exact List.forall_mem_cons.mpr ⟨each round now closed.1, ih closed.2⟩

/-- Rounds that are over were stopped by a given time, and each before the next one started. -/
theorem Closed.apart (closed : Closed delay wait chronicle now) :
    (∀ round ∈ chronicle, ∃ time, round.stoppedAt = some time ∧ time ≤ now) ∧
      chronicle.Pairwise fun later round => ∃ time, round.stoppedAt = some time ∧ time ≤ later.startedAt := by
  induction chronicle generalizing now with
  | nil => exact ⟨fun _ listed => (nomatch listed), .nil⟩
  | cons round past ih =>
    obtain ⟨⟨_, _, time, stopped, early, started, _⟩, before⟩ := closed
    obtain ⟨stoppedBefore, apart⟩ := ih before
    refine ⟨List.forall_mem_cons.mpr ⟨⟨time, stopped, early⟩, fun earlier listed => ?_⟩, .cons stoppedBefore apart⟩
    obtain ⟨other, stoppedOther, earlyOther⟩ := stoppedBefore earlier listed
    exact ⟨other, stoppedOther, by omega⟩

namespace Sound

variable (sound : Sound delay wait now chronicle periodic)

include sound

/-- **Ticks do not overlap.** -/
theorem serial : chronicle.ticks.Pairwise fun tick later => tick.finish ≤ later.begins := by
  rcases sound.shape with ⟨_, closed⟩ | ⟨round, past, loop, rfl, _, closed, tracks⟩
  · exact closed.tells.2.1
  · obtain ⟨_, serial, finished⟩ := closed.tells
    have regular := tracks.planned.regular
    refine List.pairwise_append.mpr ⟨serial, regular.serial, fun tick old later new => ?_⟩
    exact Nat.le_trans (finished tick old) (regular.begins later new)

/-- **All ticks have ended, when their time was up, but at most one that is in progress.** -/
theorem single : ∃ inProgress : Option Nat,
    chronicle.ends ++ inProgress.toList = chronicle.ticks.map Tick.finish ∧
      ∀ finish, inProgress = some finish → now < finish := by
  rcases sound.shape with ⟨_, closed⟩ | ⟨round, past, loop, rfl, _, closed, tracks⟩
  · exact ⟨none, (List.append_nil _).trans closed.tells.1, nofun⟩
  · refine ⟨loop.busyUntil, ?_, fun finish busy => ?_⟩
    · unfold Chronicle.ends Chronicle.ticks
      rw [List.append_assoc, tracks.ends, closed.tells.1, List.map_append]
    · have ahead := tracks.ahead
      rw [busy] at ahead
      exact ahead

/-- **Every round keeps the schedule.** -/
theorem regular : ∀ round ∈ chronicle, round.Regular delay wait := by
  rcases sound.shape with ⟨_, closed⟩ | ⟨round, past, loop, rfl, _, closed, tracks⟩
  · exact closed.all fun _ _ done => done.regular
  · exact List.forall_mem_cons.mpr ⟨tracks.planned.regular, closed.all fun _ _ done => done.regular⟩

/-- **A round that is over was stopped when its ticks had ended.** -/
theorem stopped : ∀ round ∈ chronicle, ∀ time, round.stoppedAt = some time →
    round.ends = round.ticks.map Tick.finish ∧ ∀ tick ∈ round.ticks, tick.finish ≤ time := by
  have each : ∀ round bound, Round.Closed delay wait bound round → ∀ time, round.stoppedAt = some time →
      round.ends = round.ticks.map Tick.finish ∧ ∀ tick ∈ round.ticks, tick.finish ≤ time := by
    rintro round bound ⟨_, ends, _, stoppedAt, _, _, finished⟩ time stopped
    cases stopped.symm.trans stoppedAt
    exact ⟨ends, finished⟩
  rcases sound.shape with ⟨_, closed⟩ | ⟨round, past, loop, rfl, _, closed, tracks⟩
  · exact closed.all each
  · exact List.forall_mem_cons.mpr
      ⟨fun time stopped => (nomatch tracks.opened.symm.trans stopped), closed.all each⟩

/-- **Every round was stopped before the next one started.** -/
theorem apart : chronicle.Pairwise fun later round =>
    ∃ time, round.stoppedAt = some time ∧ time ≤ later.startedAt := by
  rcases sound.shape with ⟨_, closed⟩ | ⟨round, past, loop, rfl, _, closed, _⟩
  · exact closed.apart.2
  · exact .cons closed.apart.1 closed.apart.2

/-- A round is going on exactly if the worker is running. -/
theorem isRunning_eq : (chronicle.any fun round => round.stoppedAt.isNone) = periodic.isRunning := by
  unfold Periodic.isRunning
  rcases sound.shape with ⟨idle, closed⟩ | ⟨round, past, loop, rfl, going, _, tracks⟩
  · rw [idle]
    refine List.any_eq_false.mpr fun round listed opened => ?_
    obtain ⟨time, stoppedAt, _⟩ := closed.apart.1 round listed
    rw [stoppedAt] at opened
    cases opened
  · rw [going, List.any_cons, tracks.opened]
    rfl

/-- **Nothing is late** in a round that is going on. -/
theorem prompt : ∀ round ∈ chronicle, round.stoppedAt = none →
    (round.ticks = [] → now < round.startedAt + delay) ∧
      ∀ tick, round.ticks.getLast? = some tick → now < max tick.finish (tick.begins + wait) := by
  have stopped : ∀ round bound, Round.Closed delay wait bound round → round.stoppedAt ≠ none := by
    rintro round bound ⟨_, _, _, stoppedAt, _⟩ opened
    exact nomatch opened.symm.trans stoppedAt
  rcases sound.shape with ⟨_, closed⟩ | ⟨round, past, loop, rfl, _, closed, tracks⟩
  · exact fun round listed opened => absurd opened (closed.all stopped round listed)
  · refine List.forall_mem_cons.mpr ⟨fun _ => ⟨tracks.first, tracks.latest⟩, fun earlier listed opened => ?_⟩
    exact absurd opened (closed.all stopped earlier listed)

end Sound

/-! ### What keeps a chronicle sound -/

/-- **Ticks that begin as soon as they are due keep a chronicle sound.** -/
theorem sound_beginTicks {deadline : Nat} (rests : round.Rests delay wait now deadline)
    (sameDelay : periodic.delay = delay) (sameWait : min periodic.period longestWait = wait)
    (complete : (ticks (round :: past)).length = periodic.begun)
    (closed : Closed delay wait past round.startedAt) :
    Sound delay wait now
      ((periodic.beginTicks lasts now deadline).2.foldl (note lasts) (round :: past))
      (periodic.beginTicks lasts now deadline).1 := by
  induction remaining : now + 1 - deadline using Nat.strongRecOn
    generalizing periodic round deadline with
  | ind remaining ih =>
    rcases Nat.lt_or_ge now deadline with later | due
    · rw [Periodic.beginTicks_later later]
      refine ⟨sameDelay, sameWait, complete, .going closed ?_⟩
      exact ⟨rests.opened, rests.planned, (List.append_nil _).trans rests.ends, fun _ => rests.rested, later⟩
    · have later := lt_nextDeadline periodic.period_pos due
      have prompt : now = max round.free deadline := by
        have rested := rests.rested
        have latest := rests.prompt
        omega
      have planned : (round.begin ⟨now, lasts periodic.begun⟩).Planned delay wait
          (nextDeadline periodic.period now deadline) := by
        unfold nextDeadline
        rw [sameWait]
        exact rests.planned.begin prompt _
      have noted : note lasts (round :: past) (.began now) =
          round.begin ⟨now, lasts periodic.begun⟩ :: past := by
        rw [note_began rests.opened, complete]
      have grown : (ticks (round.begin ⟨now, lasts periodic.begun⟩ :: past)).length = periodic.begun + 1 := by
        unfold ticks Round.begin
        rw [← List.append_assoc, List.length_append, List.length_singleton]
        exact congrArg (· + 1) complete
      by_cases instant : lasts periodic.begun = 0
      · rw [Periodic.beginTicks_instant due instant, List.foldl_cons, noted]
        have rested : (round.begin ⟨now, lasts periodic.begun⟩).Rests delay wait now
            (nextDeadline periodic.period now deadline) := by
          refine ⟨rests.opened, planned, Round.ends_begin_instant rests.ends instant, ?_, ?_⟩
          · rw [Round.free_begin, instant]
            exact Nat.le_refl now
          · rw [Round.free_begin, instant]
            exact Nat.le_max_left now _
        exact @ih _ (by omega) { periodic with begun := periodic.begun + 1 } _ _ rested sameDelay sameWait grown
          closed rfl
      · rw [Periodic.beginTicks_lasting due instant, List.foldl_cons, noted]
        refine ⟨sameDelay, sameWait, grown, .going closed ?_⟩
        exact ⟨rests.opened, planned, Round.ends_begin_lasting rests.ends instant, nofun,
          Nat.lt_add_of_pos_right (Nat.pos_of_ne_zero instant)⟩

/-- **Everything that is due now keeps a chronicle sound.** -/
theorem sound_run (lasts : Nat → Nat) {next : Nat} (sound : Sound delay wait now chronicle periodic)
    (due : periodic.due? = some next) :
    Sound delay wait next ((periodic.run lasts next).2.foldl (note lasts) chronicle)
      (periodic.run lasts next).1 := by
  unfold Periodic.due? at due
  unfold Periodic.run
  rcases sound.shape with ⟨idle, _⟩ | ⟨round, past, ⟨deadline, busyUntil⟩, rfl, going, closed, tracks⟩
  · rw [idle] at due
    cases due
  · rw [going] at due ⊢
    have ahead := tracks.ahead
    cases busyUntil with
    | none =>
      cases due
      have free : round.free ≤ now := tracks.rested rfl
      have ends : round.ends = round.ticks.map Tick.finish := (List.append_nil _).symm.trans tracks.ends
      have rests : round.Rests delay wait deadline deadline :=
        ⟨tracks.opened, tracks.planned, ends, Nat.le_trans free (Nat.le_of_lt ahead), Nat.le_max_right _ _⟩
      exact sound_beginTicks rests sound.sameDelay sound.sameWait sound.complete closed
    | some finish =>
      cases due
      have free : round.free = finish := Round.free_of_busy tracks.ends
      have rests : (round.finish finish).Rests delay wait finish deadline :=
        ⟨tracks.opened, tracks.planned.finish finish, tracks.ends, Nat.le_of_eq free,
          Nat.le_trans (Nat.le_of_eq free.symm) (Nat.le_max_left _ _)⟩
      dsimp only [Option.getD_some]
      rw [if_pos (Nat.le_refl finish)]
      dsimp only
      rw [List.foldl_cons, note_ended tracks.opened]
      exact sound_beginTicks rests sound.sameDelay sound.sameWait sound.complete closed

/-- What a worker that is going on has to do next lies ahead. -/
theorem Sound.ahead (sound : Sound delay wait now chronicle periodic) : periodic.Ahead now := by
  intro time due
  unfold Periodic.due? at due
  rcases sound.shape with ⟨idle, _⟩ | ⟨round, past, loop, _, going, _, tracks⟩
  · rw [idle] at due
    cases due
  · rw [going] at due
    cases due
    exact tracks.ahead

/-- **Time in which nothing is due keeps a chronicle sound.** -/
theorem Sound.later {next : Nat} (sound : Sound delay wait now chronicle periodic) (later : now ≤ next)
    (ahead : periodic.Ahead next) : Sound delay wait next chronicle periodic := by
  refine ⟨sound.sameDelay, sound.sameWait, sound.complete, ?_⟩
  rcases sound.shape with ⟨idle, closed⟩ | ⟨round, past, loop, rfl, going, closed, tracks⟩
  · rw [idle]
    exact .idle (closed.later later)
  · have due : periodic.due? = some (loop.busyUntil.getD loop.deadline) := by
      unfold Periodic.due?
      rw [going]
      rfl
    rw [going]
    exact .going closed (tracks.later later (ahead _ due))

/-- **The passing of time keeps a chronicle sound.** -/
theorem sound_advance {wall : Nat → Time.Instant} {target : Nat} {worker : Worker} (later : now ≤ target)
    (sound : Sound delay wait now (chronicle.of worker) worker.periodic) :
    let after := Timed.advance wall now target worker
    Sound delay wait target (chronicle.of after) after.periodic := by
  induction remaining : target - now using Nat.strongRecOn generalizing now worker with
  | ind remaining ih =>
    have ahead := sound.ahead
    rcases Nat.lt_or_eq_of_le later with early | rfl
    · cases due : Timed.due? worker with
      | none =>
        rw [Timed.advance_none due]
        have idle : worker.periodic.Ahead target := fun time found => nomatch due.symm.trans found
        exact sound.later later idle
      | some time =>
        by_cases near : time ≤ target
        · have meets : max time (now + 1) = time := Nat.max_eq_left (ahead time due)
          rw [Timed.advance_step early due near, meets]
          have ran : Sound delay wait time (chronicle.of (worker.run time)) (worker.run time).periodic := by
            unfold Chronicle.of Worker.run
            rw [List.foldl_append]
            exact sound_run worker.lasts sound due
          have sooner : now < time := ahead time due
          exact ih _ (by omega) near ran rfl
        · rw [Timed.advance_waiting due (Nat.not_le.mp near)]
          refine sound.later later fun other found => ?_
          cases due.symm.trans found
          exact Nat.not_le.mp near
    · rw [Timed.advance_done (Nat.le_refl now)]
      exact sound

end Chronicle

end Switchboard

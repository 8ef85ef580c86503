/-
**Rounds of a periodic worker.**

A round is what happens between a start of a worker and the stop that follows: its ticks, each with the time at
which it begins and the time that it takes, and the ends of ticks.

* `Round.free` — the time from which no tick of a round is in progress.
* `Round.Regular` — the ticks of a round keep the schedule: the first comes after the delay, each of the others
  a wait after the one before, or as soon as that one has ended.
* `Round.Planned` — the round is regular so far, and its next tick may begin from a deadline on.
* `Round.Planned.begin` — a tick that begins as soon as the worker is free and the deadline has come leaves the
  round regular, and the next deadline fits it.
-/

import Mathlib.Data.List.Basic
import Switchboard.Schedule.Periodic

namespace Switchboard

/-- A tick: when it begins and how long it takes. -/
structure Tick where
  begins : Nat
  lasts : Nat
  deriving DecidableEq, Repr

/-- The time at which a tick has to end. -/
def Tick.finish (tick : Tick) : Nat := tick.begins + tick.lasts

/-- What happens between a start and the stop that follows, if it has come: the ticks and the ends of ticks, the
oldest first. -/
structure Round where
  startedAt : Nat
  ticks : List Tick := []
  ends : List Nat := []
  stoppedAt : Option Nat := none
  deriving DecidableEq, Repr

namespace Round

/-- The time from which no tick is in progress. -/
def free (round : Round) : Nat := (round.ticks.getLast?.map Tick.finish).getD round.startedAt

/-- The round with one more tick; a tick that takes no time ends at once. -/
def begin (round : Round) (tick : Tick) : Round :=
  { round with
    ticks := round.ticks ++ [tick]
    ends := if tick.lasts = 0 then round.ends ++ [tick.begins] else round.ends }

/-- The round with one more end of a tick. -/
def finish (round : Round) (time : Nat) : Round := { round with ends := round.ends ++ [time] }

theorem free_of_latest {round : Round} {tick : Tick} (latest : round.ticks.getLast? = some tick) :
    round.free = tick.finish := by
  unfold free
  rw [latest]
  rfl

theorem free_begin (round : Round) (tick : Tick) : (round.begin tick).free = tick.finish :=
  free_of_latest List.getLast?_concat

theorem free_of_append {round : Round} {earlier : List Tick} {last : Tick}
    (listed : round.ticks = earlier ++ [last]) : round.free = last.finish :=
  free_of_latest (listed ▸ List.getLast?_concat)

/-! ### Regular rounds -/

variable {delay wait : Nat} {round : Round}

/-- **The ticks of a round keep the schedule.** -/
structure Regular (delay wait : Nat) (round : Round) : Prop where
  /-- The first tick begins after the delay. -/
  first : ∀ tick, round.ticks[0]? = some tick → tick.begins = round.startedAt + delay
  /-- A tick begins a wait after the one before, at most five milliseconds earlier, or when that one has ended. -/
  next : ∀ number tick later, round.ticks[number]? = some tick → round.ticks[number + 1]? = some later →
    max tick.finish (tick.begins + wait - tolerance) ≤ later.begins ∧
      later.begins ≤ max tick.finish (tick.begins + wait)
  /-- As long as no tick takes longer than a wait, the schedule does not drift. -/
  steady : (∀ tick ∈ round.ticks, tick.lasts ≤ wait) → ∀ number tick,
    round.ticks[number]? = some tick → tick.begins = round.startedAt + delay + number * wait
  /-- No tick begins before an earlier one has ended. -/
  serial : round.ticks.Pairwise fun tick later => tick.finish ≤ later.begins
  /-- No tick begins before the start. -/
  begins : ∀ tick ∈ round.ticks, round.startedAt ≤ tick.begins

/-- Only the start and the ticks of a round matter. -/
theorem Regular.of_same {other : Round} (regular : round.Regular delay wait)
    (startedAt : other.startedAt = round.startedAt) (ticks : other.ticks = round.ticks) :
    other.Regular delay wait where
  first := by
    rw [ticks, startedAt]
    exact regular.first
  next := by
    rw [ticks]
    exact regular.next
  steady := by
    rw [ticks, startedAt]
    exact regular.steady
  serial := by
    rw [ticks]
    exact regular.serial
  begins := by
    rw [ticks, startedAt]
    exact regular.begins

/-- Every tick has ended when the worker is free. -/
theorem Regular.finish_le_free (regular : round.Regular delay wait) {tick : Tick}
    (listed : tick ∈ round.ticks) : tick.finish ≤ round.free := by
  rcases List.eq_nil_or_concat' round.ticks with nothing | ⟨earlier, last, shape⟩
  · rw [nothing] at listed
    cases listed
  · rw [free_of_append shape]
    have serial := regular.serial
    rw [shape] at listed serial
    rcases List.mem_append.mp listed with before | same
    · have apart := (List.pairwise_append.mp serial).2.2 tick before last List.mem_cons_self
      unfold Tick.finish at apart ⊢
      omega
    · exact Nat.le_of_eq (congrArg Tick.finish (List.mem_singleton.mp same))

/-- The worker is not free before the start. -/
theorem Regular.startedAt_le_free (regular : round.Regular delay wait) : round.startedAt ≤ round.free := by
  rcases List.eq_nil_or_concat' round.ticks with nothing | ⟨earlier, last, shape⟩
  · unfold free
    rw [nothing]
    exact Nat.le_refl _
  · have after := regular.begins last (shape ▸ List.mem_append_right earlier List.mem_cons_self)
    rw [free_of_append shape]
    unfold Tick.finish
    omega

/-! ### Deadlines -/

/-- A round is regular so far, and its next tick may begin from a deadline on. -/
structure Planned (delay wait : Nat) (round : Round) (deadline : Nat) : Prop where
  regular : round.Regular delay wait
  first : round.ticks = [] → deadline = round.startedAt + delay
  next : ∀ tick, round.ticks.getLast? = some tick →
    tick.begins + wait - tolerance ≤ deadline ∧ deadline ≤ tick.begins + wait
  steady : (∀ tick ∈ round.ticks, tick.lasts ≤ wait) →
    deadline = round.startedAt + delay + round.ticks.length * wait

/-- A tick of a list with one more tick is an old one or the one that was added. -/
theorem tick_of_concat {ticks : List Tick} {tick other : Tick} {number : Nat}
    (found : (ticks ++ [tick])[number]? = some other) :
    ticks[number]? = some other ∨ number = ticks.length ∧ other = tick := by
  rcases Nat.lt_trichotomy number ticks.length with before | rfl | after
  · rw [List.getElem?_append_left before] at found
    exact .inl found
  · rw [List.getElem?_concat_length] at found
    exact .inr ⟨rfl, (Option.some.inj found).symm⟩
  · rw [List.getElem?_eq_none (by rw [List.length_append, List.length_singleton]; omega)] at found
    cases found

namespace Planned

variable {deadline now : Nat} (planned : round.Planned delay wait deadline)

include planned

/-- As long as no tick takes longer than a wait, the worker is free when the deadline comes. -/
theorem free_le_deadline (short : ∀ tick ∈ round.ticks, tick.lasts ≤ wait) : round.free ≤ deadline := by
  rw [planned.steady short]
  rcases List.eq_nil_or_concat' round.ticks with nothing | ⟨earlier, last, shape⟩
  · unfold free
    rw [nothing]
    show round.startedAt ≤ _
    omega
  · have listed : round.ticks[earlier.length]? = some last := by
      rw [shape, List.getElem?_concat_length]
    have begins := planned.regular.steady short earlier.length last listed
    have lasts := short last (shape ▸ List.mem_append_right earlier List.mem_cons_self)
    rw [free_of_append shape, shape, List.length_append, List.length_singleton, Nat.succ_mul]
    unfold Tick.finish
    omega

/-- A tick that begins as soon as the worker is free and the deadline has come is regular. -/
theorem regular_begin (prompt : now = max round.free deadline) (length : Nat) :
    (round.begin ⟨now, length⟩).Regular delay wait where
  first tick found := by
    rcases tick_of_concat found with old | ⟨none, rfl⟩
    · exact planned.regular.first tick old
    · have nothing : round.ticks = [] := List.eq_nil_of_length_eq_zero none.symm
      have free : round.free = round.startedAt := by
        unfold Round.free
        rw [nothing]
        rfl
      have due := planned.first nothing
      show now = round.startedAt + delay
      omega
  next number tick later found foundLater := by
    have earlier : number < round.ticks.length := by
      have listed := (List.getElem?_eq_some_iff.mp foundLater).1
      unfold begin at listed
      rw [List.length_append, List.length_singleton] at listed
      omega
    have old : round.ticks[number]? = some tick := by
      unfold begin at found
      rwa [List.getElem?_append_left earlier] at found
    rcases tick_of_concat foundLater with oldLater | ⟨last, rfl⟩
    · exact planned.regular.next number tick later old oldLater
    · have latest : round.ticks.getLast? = some tick := by
        rw [List.getLast?_eq_getElem?, ← last]
        exact old
      have free : round.free = tick.finish := free_of_latest latest
      have window := planned.next tick latest
      show max tick.finish (tick.begins + wait - tolerance) ≤ now ∧ now ≤ max tick.finish (tick.begins + wait)
      omega
  steady short number tick found := by
    obtain ⟨shortBefore, _⟩ := List.forall_mem_append.mp short
    rcases tick_of_concat found with old | ⟨rfl, rfl⟩
    · exact planned.regular.steady shortBefore number tick old
    · have free := planned.free_le_deadline shortBefore
      have due := planned.steady shortBefore
      show now = round.startedAt + delay + round.ticks.length * wait
      omega
  serial := by
    refine List.pairwise_append.mpr ⟨planned.regular.serial, List.pairwise_singleton _ _, ?_⟩
    intro tick listed later same
    have ended := planned.regular.finish_le_free listed
    rw [List.mem_singleton.mp same]
    show tick.finish ≤ now
    omega
  begins tick listed := by
    rcases List.mem_append.mp listed with old | same
    · exact planned.regular.begins tick old
    · have started := planned.regular.startedAt_le_free
      rw [List.mem_singleton.mp same]
      show round.startedAt ≤ now
      omega

/-- **A tick that begins as soon as it may keeps the plan.** -/
theorem begin (prompt : now = max round.free deadline) (length : Nat) :
    (round.begin ⟨now, length⟩).Planned delay wait
      ((if now ≤ deadline + tolerance then deadline else now) + wait) where
  regular := planned.regular_begin prompt length
  first nothing := absurd nothing (List.append_ne_nil_of_right_ne_nil _ (List.cons_ne_nil _ _))
  next tick latest := by
    unfold Round.begin at latest
    rw [List.getLast?_concat] at latest
    cases latest
    show now + wait - tolerance ≤ _ ∧ _ ≤ now + wait
    split <;> omega
  steady short := by
    obtain ⟨shortBefore, _⟩ := List.forall_mem_append.mp short
    have free := planned.free_le_deadline shortBefore
    have due := planned.steady shortBefore
    show _ = round.startedAt + delay + (round.ticks ++ [(⟨now, length⟩ : Tick)]).length * wait
    rw [List.length_append, List.length_singleton, Nat.succ_mul, if_pos (by omega)]
    omega

end Planned

end Round

end Switchboard

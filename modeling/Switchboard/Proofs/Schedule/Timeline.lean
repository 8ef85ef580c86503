/-
**Parts of what happens as time passes.**

* `Timed.advance_keeps` — what every run of a system keeps is kept as time passes;
  `Timed.advance_keeps_until` — it is enough that the runs on the way keep it.
* `Timed.advance_alike` — two systems that run alike move on alike.
* `Timed.soonest_le`, `Timed.soonest_ahead` — the soonest of the times at which the parts of a system are due.
* `Timed.Patient` — a system with nothing left to do after a run, on which a run before the next thing is
  due has no effect.
* `Timed.Patient.advance_part` — a patient part of a system moves on as if it were by itself: that other
  parts are due in between makes no difference to it.
-/

import Switchboard.Schedule.Timeline

namespace Switchboard

namespace Timed

variable {W V : Type} [Timed W] [Timed V] {wall : Nat → Time.Instant} {now target : Nat}

/-! ### One step of time -/

theorem advance_done (late : target ≤ now) (world : W) : advance wall now target world = world := by
  rw [advance, if_neg (Nat.not_lt.mpr late)]

theorem advance_none {world : W} (idle : due? world = none) :
    advance wall now target world = world := by
  rw [advance, idle]
  exact ite_self _

theorem advance_waiting {world : W} {time : Nat} (due : due? world = some time) (far : target < time) :
    advance wall now target world = world := by
  rw [advance, due]
  dsimp only
  rw [if_neg (Nat.not_le.mpr far)]
  exact ite_self _

theorem advance_step {world : W} {time : Nat} (early : now < target) (due : due? world = some time)
    (near : time ≤ target) :
    advance wall now target world =
      advance wall (max time (now + 1)) target
        (run ⟨max time (now + 1), wall (max time (now + 1))⟩ world) := by
  rw [advance, if_pos early, due]
  exact if_pos near

/-- **What every run on the way keeps is kept as time passes.** -/
theorem advance_keeps_until (kept : W → Prop)
    (keeps : ∀ moment world, now < moment.clock → moment.clock ≤ target → kept world →
      kept (run moment world))
    {world : W} (start : kept world) : kept (advance wall now target world) := by
  induction remaining : target - now using Nat.strongRecOn generalizing now world with
  | ind remaining ih =>
    by_cases early : now < target
    · cases due : due? world with
      | none =>
        rw [advance_none due]
        exact start
      | some time =>
        by_cases near : time ≤ target
        · rw [advance_step early due near]
          have reached : max time (now + 1) ≤ target := by omega
          refine ih _ (by omega) (fun moment world later => keeps moment world (by omega)) ?_ rfl
          exact keeps _ world (by dsimp only; omega) reached start
        · rw [advance_waiting due (Nat.not_le.mp near)]
          exact start
    · rw [advance_done (Nat.not_lt.mp early)]
      exact start

/-- **What every run keeps is kept as time passes.** -/
theorem advance_keeps (kept : W → Prop) (keeps : ∀ moment world, kept world → kept (run moment world))
    {world : W} (start : kept world) : kept (advance wall now target world) :=
  advance_keeps_until kept (fun moment world _ _ => keeps moment world) start

/-- **Systems that run alike move on alike.** -/
theorem advance_alike (alike : W → V → Prop)
    (due : ∀ world other, alike world other → due? world = due? other)
    (running : ∀ moment world other, alike world other → alike (run moment world) (run moment other))
    {world : W} {other : V} (start : alike world other) :
    alike (advance wall now target world) (advance wall now target other) := by
  induction remaining : target - now using Nat.strongRecOn generalizing now world other with
  | ind remaining ih =>
    by_cases early : now < target
    · have same := due world other start
      cases soonest : due? world with
      | none =>
        rw [advance_none soonest, advance_none (same ▸ soonest)]
        exact start
      | some time =>
        rw [soonest] at same
        by_cases near : time ≤ target
        · rw [advance_step early soonest near, advance_step early same.symm near]
          exact ih _ (by omega) (running _ world other start) rfl
        · rw [advance_waiting soonest (Nat.not_le.mp near),
            advance_waiting same.symm (Nat.not_le.mp near)]
          exact start
    · rw [advance_done (Nat.not_lt.mp early), advance_done (Nat.not_lt.mp early)]
      exact start

/-- Time in which nothing is due can be passed over. -/
theorem advance_skip {part : V} {next : Nat} (later : now ≤ next)
    (idle : ∀ time, due? part = some time → next < time) :
    advance wall now target part = advance wall next target part := by
  cases due : due? part with
  | none => rw [advance_none due, advance_none due]
  | some time =>
    have far := idle time due
    by_cases near : time ≤ target
    · rw [advance_step (by omega) due near, advance_step (by omega) due near,
        Nat.max_eq_left (by omega : now + 1 ≤ time), Nat.max_eq_left (by omega : next + 1 ≤ time)]
    · rw [advance_waiting due (Nat.not_le.mp near), advance_waiting due (Nat.not_le.mp near)]

/-! ### Several parts -/

section Soonest

variable {times : List (Option Nat)}

/-- The soonest of several times is no later than any of them. -/
theorem soonest_le {time : Nat} (listed : some time ∈ times) :
    ∃ soonest, times.reduceOption.min? = some soonest ∧ soonest ≤ time := by
  have present : time ∈ times.reduceOption := List.mem_filterMap.mpr ⟨some time, listed, rfl⟩
  cases found : times.reduceOption.min? with
  | none =>
    rw [List.min?_eq_none_iff.mp found] at present
    cases present
  | some soonest => exact ⟨soonest, rfl, (List.min?_eq_some_iff.mp found).2 time present⟩

/-- **The soonest time lies ahead exactly if all do.** -/
theorem soonest_ahead : (∀ time, times.reduceOption.min? = some time → now < time) ↔
    ∀ time, some time ∈ times → now < time := by
  constructor
  · intro ahead time listed
    obtain ⟨soonest, found, sooner⟩ := soonest_le listed
    exact Nat.lt_of_lt_of_le (ahead soonest found) sooner
  · intro ahead time found
    obtain ⟨listing, present, rfl⟩ := List.mem_filterMap.mp (List.min?_eq_some_iff.mp found).1
    exact ahead time present

end Soonest

/-! ### Patient systems -/

/-- A run leaves a system quiet; a run of a quiet system has no effect, and a quiet system stays so until
the next thing is due. -/
structure Patient (quiet : Nat → V → Prop) : Prop where
  settles : ∀ moment part, quiet moment.clock (run moment part)
  rests : ∀ moment part, quiet moment.clock part → run moment part = part
  ahead : ∀ now part time, quiet now part → due? part = some time → now < time
  waits : ∀ now next part, quiet now part → (∀ time, due? part = some time → next < time) →
    quiet next part

namespace Patient

variable {quiet : Nat → V → Prop} {part : V}

/-- A patient system is quiet when time has passed. -/
theorem quiet_advance (patient : Patient quiet) (calm : quiet now part) (later : now ≤ target) :
    quiet target (advance wall now target part) := by
  induction remaining : target - now using Nat.strongRecOn generalizing now part with
  | ind remaining ih =>
    rcases Nat.lt_or_eq_of_le later with early | rfl
    · cases due : due? part with
      | none =>
        rw [advance_none due]
        exact patient.waits now target part calm fun time found => by rw [due] at found; cases found
      | some time =>
        by_cases near : time ≤ target
        · rw [advance_step early due near]
          have calm := patient.settles ⟨max time (now + 1), wall (max time (now + 1))⟩ part
          exact ih _ (by omega) calm (by omega) rfl
        · rw [advance_waiting due (Nat.not_le.mp near)]
          refine patient.waits now target part calm fun other found => ?_
          rw [due] at found
          cases found
          exact Nat.not_le.mp near
    · rw [advance_done (Nat.le_refl now)]
      exact calm

/-- A run that comes no later than the next thing is due makes no difference. -/
theorem advance_run (patient : Patient quiet) {next : Nat} (calm : quiet now part) (early : now < next)
    (near : next ≤ target) (first : ∀ own, due? part = some own → next ≤ own) :
    advance wall now target part = advance wall next target (run ⟨next, wall next⟩ part) := by
  by_cases meets : due? part = some next
  · have same : max next (now + 1) = next := Nat.max_eq_left early
    rw [advance_step (Nat.lt_of_lt_of_le early near) meets near, same]
  · have idle : ∀ own, due? part = some own → next < own := by
      intro own found
      refine Nat.lt_of_le_of_ne (first own found) fun same => meets ?_
      rw [found, same]
    have waiting : quiet next part := patient.waits now next part calm idle
    rw [patient.rests ⟨next, wall next⟩ part waiting]
    exact advance_skip (Nat.le_of_lt early) idle

/-- **A patient part of a system moves on as if it were by itself.** -/
theorem advance_part (patient : Patient quiet) (view : W → V)
    (due : ∀ world own, due? (view world) = some own →
      ∃ soonest, due? world = some soonest ∧ soonest ≤ own)
    (running : ∀ moment world, view (run moment world) = run moment (view world))
    {world : W} (calm : quiet now (view world)) :
    view (advance wall now target world) = advance wall now target (view world) := by
  -- The system may also run while nothing is due for its part, which `advance_run` leaves out.
  induction remaining : target - now using Nat.strongRecOn generalizing now world with
  | ind remaining ih =>
    by_cases early : now < target
    · cases soonest : due? world with
      | none =>
        have idle : due? (view world) = none := by
          refine Option.eq_none_iff_forall_ne_some.mpr fun own found => ?_
          obtain ⟨_, listed, _⟩ := due world own found
          cases soonest.symm.trans listed
        rw [advance_none soonest, advance_none idle]
      | some time =>
        have first : ∀ own, due? (view world) = some own → time ≤ own := by
          intro own found
          obtain ⟨_, listed, sooner⟩ := due world own found
          cases soonest.symm.trans listed
          exact sooner
        by_cases near : time ≤ target
        · obtain ⟨next, reached⟩ : ∃ next, next = max time (now + 1) := ⟨_, rfl⟩
          have later : ∀ own, due? (view world) = some own → next ≤ own := by
            intro own found
            have ahead : now < own := patient.ahead now _ own calm found
            have sooner := first own found
            omega
          have settled : quiet next (run ⟨next, wall next⟩ (view world)) :=
            patient.settles ⟨next, wall next⟩ _
          rw [← running] at settled
          rw [advance_step early soonest near, ← reached, ih _ (by omega) settled rfl, running]
          exact (patient.advance_run calm (by omega) (by omega) later).symm
        · rw [advance_waiting soonest (Nat.not_le.mp near)]
          cases found : due? (view world) with
          | none => rw [advance_none found]
          | some own =>
            have far : target < own := Nat.lt_of_lt_of_le (Nat.not_le.mp near) (first own found)
            rw [advance_waiting found far]
    · rw [advance_done (Nat.not_lt.mp early), advance_done (Nat.not_lt.mp early)]

end Patient

end Timed

end Switchboard

/-
**Collections that wait.**

* `Collection.Quiet` — the next refresh and the next sweep of a collection lie ahead.
* `Collection.patient` — a collection is quiet after a run and stays so until something in it is due: it moves on with
  time as if it were by itself.
* `Board.features_pass`, `Board.properties_pass` — the collections of a board move on as if they were by themselves,
  whatever happens at the desk.
-/

import Switchboard.Proofs.Board.Steps
import Switchboard.Proofs.Repository.Leads
import Switchboard.Proofs.Schedule.Periodic

namespace Switchboard

open Act

/-! ### Collections -/

namespace Collection

variable {E N α : Type} {moment : Moment} {collection : Collection E N}

/-- The next refresh and the next sweep lie ahead. -/
structure Quiet (now : Nat) (collection : Collection E N) : Prop where
  refresher : ∀ refresher, collection.refresher = some refresher → refresher.worker.Ahead now
  sweeper : ∀ sweeper, collection.sweeper = some sweeper → sweeper.Ahead now

/-- Nothing is due before the time at which a collection is due. -/
theorem quiet_iff_due {now : Nat} :
    collection.Quiet now ↔ ∀ time, collection.due? = some time → now < time := by
  unfold due?
  rw [Timed.soonest_ahead]
  constructor
  · intro quiet time listed
    rcases List.mem_cons.mp listed with due | listed
    · obtain ⟨refresher, present, due⟩ := Option.bind_eq_some_iff.mp due.symm
      exact quiet.refresher refresher present time due
    · obtain ⟨sweeper, present, due⟩ :=
        Option.bind_eq_some_iff.mp (List.mem_singleton.mp listed).symm
      exact quiet.sweeper sweeper present time due
  · intro ahead
    refine ⟨fun refresher present time due => ahead time ?_, fun sweeper present time due => ahead time ?_⟩
    · rw [present, Option.bind_some, due]
      exact List.mem_cons_self
    · rw [present, Option.bind_some, due]
      exact List.mem_cons_of_mem _ List.mem_cons_self

/-! ### Refreshes and sweeps leave the workers alone -/

/-- The workers of a collection are the same as before. -/
structure SameWorkers (before after : Collection E N) : Prop where
  refresher : after.refresher.map Refresher.worker = before.refresher.map Refresher.worker
  sweeper : after.sweeper = before.sweeper

theorem SameWorkers.refl (collection : Collection E N) : SameWorkers collection collection := ⟨rfl, rfl⟩

theorem SameWorkers.trans (first second third : Collection E N) (early : SameWorkers first second)
    (late : SameWorkers second third) : SameWorkers first third :=
  ⟨late.refresher.trans early.refresher, late.sweeper.trans early.sweeper⟩

theorem SameWorkers.quiet {now : Nat} {before after : Collection E N} (same : SameWorkers before after)
    (quiet : before.Quiet now) : after.Quiet now := by
  refine ⟨fun refresher present => ?_, fun sweeper present => quiet.sweeper sweeper ?_⟩
  · have worker := same.refresher.symm
    rw [present, Option.map_some] at worker
    obtain ⟨earlier, found, equal⟩ := Option.map_eq_some_iff.mp worker
    exact equal ▸ quiet.refresher earlier found
  · rw [← same.sweeper, present]

theorem sameWorkers_tally (change : RefreshStats → RefreshStats) :
    Leads (SameWorkers (E := E) (N := N)) (tally change) := by
  refine fun _ collection => ⟨?_, rfl⟩
  show (collection.refresher.map _).map Refresher.worker = _
  rw [Option.map_map]
  rfl

theorem sameWorkers_sweep : Leads (SameWorkers (E := E) (N := N)) sweep :=
  fun _ _ => ⟨rfl, rfl⟩

variable [Entity E]

theorem sameWorkers_refresh : Leads (SameWorkers (E := E) (N := N)) refresh := by
  have reloaded : Leads (SameWorkers (E := E) (N := N))
      (onLayered (Layered.belowNotices (Caching.reload Backend.handle))).attempt := fun _ _ => ⟨rfl, rfl⟩
  refine reloaded.bind SameWorkers.trans fun outcome => ?_
  cases outcome with
  | ok loaded =>
    refine (Leads.now SameWorkers.refl).bind SameWorkers.trans fun now => ?_
    exact (sameWorkers_tally _).bind SameWorkers.trans fun _ => .pure SameWorkers.refl _
  | error fault =>
    exact (sameWorkers_tally _).bind SameWorkers.trans fun _ => .throw SameWorkers.refl _

omit [Entity E] in
theorem sameWorkers_repeatedly {action : Act (Collection E N) α} (leads : Leads SameWorkers action)
    (times : Nat) (moment : Moment) (collection : Collection E N) :
    SameWorkers collection (repeatedly action times moment collection) :=
  repeat_keeps (SameWorkers collection)
    (fun state same => SameWorkers.trans _ _ _ same (leads moment state))
    (SameWorkers.refl collection) times

/-! ### Runs -/

/-- When the refreshes that are due have happened, the next one lies ahead; the sweeper has not moved. -/
theorem quiet_runRefresher (moment : Moment) (collection : Collection E N) :
    (∀ refresher, (collection.runRefresher moment).refresher = some refresher →
      refresher.worker.Ahead moment.clock) ∧
    (collection.runRefresher moment).sweeper = collection.sweeper := by
  unfold runRefresher
  split
  next absent =>
    refine ⟨fun refresher present => ?_, rfl⟩
    rw [absent] at present
    cases present
  next refresher present =>
    let worker := (refresher.worker.tickCount moment.clock).2
    have same := sameWorkers_repeatedly sameWorkers_refresh (refresher.worker.tickCount moment.clock).1
      moment { collection with refresher := some { refresher with worker } }
    refine ⟨fun later found => ?_, same.sweeper⟩
    have kept := same.refresher
    rw [found] at kept
    have equal : later.worker = worker := Option.some.inj kept
    rw [equal]
    exact Periodic.ahead_tickCount refresher.worker moment.clock

theorem quiet_run (moment : Moment) (collection : Collection E N) :
    (collection.run moment).Quiet moment.clock := by
  obtain ⟨refreshed, _⟩ := quiet_runRefresher moment collection
  unfold run runSweeper
  split
  next absent =>
    refine ⟨refreshed, fun sweeper present => ?_⟩
    rw [absent] at present
    cases present
  next sweeper present =>
    refine (sameWorkers_repeatedly sameWorkers_sweep _ moment _).quiet ⟨refreshed, ?_⟩
    intro later found
    cases found
    exact Periodic.ahead_tickCount sweeper moment.clock

/-- A run of a quiet collection has no effect. -/
theorem run_of_quiet (quiet : collection.Quiet moment.clock) : collection.run moment = collection := by
  have refreshed : collection.runRefresher moment = collection := by
    unfold runRefresher
    split
    · rfl
    next refresher present =>
      rw [Periodic.tickCount_of_ahead (quiet.refresher refresher present)]
      show { collection with refresher := some refresher } = collection
      rw [← present]
  unfold run
  rw [refreshed]
  unfold runSweeper
  split
  · rfl
  next sweeper present =>
    rw [Periodic.tickCount_of_ahead (quiet.sweeper sweeper present)]
    show { collection with sweeper := some sweeper } = collection
    rw [← present]

/-- **A collection waits for its next refresh or sweep.** -/
theorem patient : Timed.Patient (Quiet (E := E) (N := N)) where
  settles := quiet_run
  rests _ _ quiet := run_of_quiet quiet
  ahead _ _ time quiet due := quiet_iff_due.mp quiet time due
  waits _ _ _ _ idle := quiet_iff_due.mpr idle

end Collection

/-! ### Boards -/

namespace Board

/-- **The features of a board move on as if they were by themselves.** -/
theorem features_pass (wall : Nat → Time.Instant) (now target : Nat) (board : Board) :
    (board.pass wall now target).features =
      Timed.advance wall now target (board.features.run ⟨now, wall now⟩) := by
  refine Collection.patient.advance_part Board.features (fun board time due => ?_) (fun _ _ => rfl)
    (Collection.quiet_run ⟨now, wall now⟩ board.features)
  refine Timed.soonest_le ?_
  rw [← due]
  exact List.mem_cons_self

/-- **The properties of a board move on as if they were by themselves.** -/
theorem properties_pass (wall : Nat → Time.Instant) (now target : Nat) (board : Board) :
    (board.pass wall now target).properties =
      Timed.advance wall now target (board.properties.run ⟨now, wall now⟩) := by
  refine Collection.patient.advance_part Board.properties (fun board time due => ?_) (fun _ _ => rfl)
    (Collection.quiet_run ⟨now, wall now⟩ board.properties)
  refine Timed.soonest_le ?_
  rw [← due]
  exact List.mem_cons_of_mem _ List.mem_cons_self

end Board

end Switchboard

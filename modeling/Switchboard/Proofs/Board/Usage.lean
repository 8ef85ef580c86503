/-
**The usage of features in a run.**

* `BoardStep.LeavesCounter` — a step neither replaces nor removes the counter of uses.
* `Board.usesIn`, `Board.usesDuring` — what steps count for the usage, by what they answer.
* `Board.CountsUses` — a board reports uses to one counter. Steps that leave the counter alone keep this, and what they
  send to it tells what they count (`Board.told_step`, `Board.told_runSteps`).
* `Board.countsAfter_runSteps` — the usage tells what the counter was told since the last reset.
* `Board.UsageTells` — what is to be said of the usage after a run; `Blueprint.usage_tells_history` — it holds of every
  run of a board that was made from a blueprint, in which no delivery is dropped and the board is shut down.
-/

import Switchboard.Proofs.Board.Rest
import Switchboard.Proofs.Evaluation.Uses

namespace Switchboard

open Act

/-- An operation neither replaces nor removes the counter of uses, nor registers it again. -/
def Operation.LeavesCounter : Operation → Prop
  | features (.register name listener) => name ≠ Blueprint.usageListener ∧ listener ≠ .usage
  | features (.unregister name) => name ≠ Blueprint.usageListener
  | _ => True

/-- A step neither replaces nor removes the counter of uses, nor registers it again. -/
def BoardStep.LeavesCounter : BoardStep → Prop
  | operation asked => asked.LeavesCounter
  | settle | advance _ | drain | shutDown => True

namespace Board

variable {board after : Board} {wall : Nat → Time.Instant} {now : Nat} {told : List Delivery}

/-! ### What counts -/

/-- The operation on the repository of features that an operation of a board makes, if there is one. -/
def asks? (board : Board) : Operation → Option FeatureOperation
  | .features (.call call) => some (.ask call)
  | .evaluate id context override =>
    some (.evaluate board.evaluator id (board.defaults.merged context) override)
  | .checkAll context => some (.checkAll board.evaluator (board.defaults.merged context))
  | .secured principal call => some (.secured principal call)
  | _ => none

/-- What an operation counts for the usage. -/
def uses (moment : Moment) (board : Board) (operation : Operation) : List UsageEvent :=
  match board.asks? operation with
  | some asked => asked.history board.features.layers moment board.features.layered
  | none => []

/-- What a step counts for the usage. -/
def usesIn (wall : Nat → Time.Instant) (now : Nat) (board : Board) : BoardStep → List UsageEvent
  | .operation asked => board.uses ⟨now, wall now⟩ asked
  | .settle | .advance _ | .drain | .shutDown => []

/-- What steps count for the usage, one after the other. -/
def usesDuring (wall : Nat → Time.Instant) : Nat × Board → List BoardStep → List UsageEvent
  | _, [] => []
  | (now, board), next :: rest =>
    board.usesIn wall now next ++
      usesDuring wall ((board.step wall now next).1, (board.step wall now next).2.2) rest

/-! ### Boards that report uses -/

/-- A board reports uses, and to one counter, which is registered under its name. -/
structure CountsUses (board : Board) : Prop where
  notifying : board.features.layers.notifying = true
  notifies : board.evaluator.notifies = true
  counter : Listeners.CountAs Blueprint.usageListener board.features.listeners

/-- A change that no listener can notice leaves a board so, and submits nothing. -/
theorem CountsUses.idle (counts : board.CountsUses) (idle : Collection.Idle board.features after.features)
    (same : after.evaluator = board.evaluator) :
    after.CountsUses ∧ after.features.layered.submitted = board.features.layered.submitted := by
  refine ⟨⟨?_, ?_, ?_⟩, idle.submitted⟩
  · rw [idle.layers]
    exact counts.notifying
  · rw [same]
    exact counts.notifies
  · rw [idle.listeners]
    exact counts.counter

/-- A board still reports uses, and on the way it has submitted notices that tell of given events. -/
def Told (events : List UsageEvent) (before after : Board) : Prop :=
  before.CountsUses → after.CountsUses ∧ Layered.Tells events before.features.layered after.features.layered

theorem Told.trans_nil (first second third : Board) (early : Told [] first second)
    (late : Told [] second third) : Told [] first third := by
  intro counts
  obtain ⟨kept, told⟩ := early counts
  obtain ⟨kept', told'⟩ := late kept
  exact ⟨kept', told.trans told'⟩

theorem told_of_idle (idle : Idle board after) : Told [] board after := by
  intro counts
  obtain ⟨kept, submitted⟩ := counts.idle idle.features idle.evaluator
  refine ⟨kept, ?_⟩
  unfold Layered.Tells
  rw [submitted, List.append_nil]

theorem idle_refreshCaches : Leads Idle refreshCaches := by
  have trans : ∀ first second third, Idle first second → Idle second third → Idle first third :=
    fun _ _ _ early late => early.trans late
  have properties : Leads Idle refreshProperties :=
    .get_bind fun _ => .ite
      (Leads.bind trans (idle_onProperties Collection.unnoticed_refresh) fun _ => .pure Idle.refl _)
      (.pure Idle.refl _)
  exact .get_bind fun _ => .ite
    (Leads.bind trans (idle_onFeatures Collection.unnoticed_refresh) fun _ => properties) properties

theorem told_onProperties {α : Type} (action : Act (Collection Property PropertyNotice) α) :
    Leads (Told []) (onProperties action) :=
  fun _ _ counts => ⟨⟨counts.notifying, counts.notifies, counts.counter⟩, .refl _⟩

/-- An operation on the repository of features submits notices that tell what it counts. -/
theorem told_ask (operation : FeatureOperation) (notifies : board.CountsUses → operation.Notifies)
    (moment : Moment) :
    let asked := (operation.through board.features.layers).perform moment board.features.layered
    Told (operation.history board.features.layers moment board.features.layered) board
      { board with features := { board.features with layered := asked.2 } } :=
  fun counts => ⟨⟨counts.notifying, counts.notifies, counts.counter⟩,
    Layered.tells_operation counts.notifying (notifies counts) moment board.features.layered⟩

/-- **An operation submits notices that tell what it counts for the usage.** -/
theorem told_handle {asked : Operation} (leaves : asked.LeavesCounter) (moment : Moment) (board : Board) :
    Told (board.uses moment asked) board ((handle asked).perform moment board).2 := by
  cases asked with
  | features call =>
    cases call with
    | call call => exact told_ask (.ask call) (fun _ => trivial) moment
    | direct | setOnline =>
      exact fun counts => ⟨⟨counts.notifying, counts.notifies, counts.counter⟩, (List.append_nil _).symm⟩
    | register name listener =>
      exact fun counts => ⟨⟨counts.notifying, counts.notifies, counts.counter.insert leaves.1 leaves.2⟩, .refl _⟩
    | unregister name =>
      exact fun counts => ⟨⟨counts.notifying, counts.notifies, counts.counter.erase leaves⟩, .refl _⟩
    | clearCache => exact told_of_idle (idle_onFeatures Collection.unnoticed_clear moment board)
    | refresh => exact told_of_idle (idle_onFeatures Collection.unnoticed_refresh moment board)
    | startRefreshing | stopRefreshing | startSweeping | stopSweeping =>
      refine told_of_idle (idle_control ?_ moment board)
      trivial
  | properties call => exact told_onProperties _ moment board
  | evaluate id context override =>
    exact told_ask (.evaluate board.evaluator id (board.defaults.merged context) override)
      (fun counts => counts.notifies) moment
  | checkAll context =>
    exact told_ask (.checkAll board.evaluator (board.defaults.merged context)) (fun _ => trivial) moment
  | secured principal call => exact told_ask (.secured principal call) (fun _ => trivial) moment
  | prepare =>
    have features : Leads (Told []) (onFeatures (featureCalls (.call (.store .prepare)))) := by
      intro moment board counts
      have nothing : Leads (Layered.Tells []) (Layered.features board.features.layers (.store .prepare)) :=
        Layered.tells_nothing counts.notifying rfl
      exact ⟨⟨counts.notifying, counts.notifies, counts.counter⟩, nothing moment board.features.layered⟩
    exact features.bind Told.trans_nil (fun _ => told_onProperties _) moment board
  | setDefaults => exact fun counts => ⟨⟨counts.notifying, counts.notifies, counts.counter⟩, .refl _⟩
  | refreshCaches => exact told_of_idle (idle_refreshCaches moment board)
  | resetUsage => exact fun counts => ⟨⟨counts.notifying, counts.notifies, counts.counter⟩, .refl _⟩

/-! ### What the counter is sent -/

/-- **The deliveries of submitted notices tell the counter of uses what the notices tell.** -/
theorem history_notifications (counts : board.CountsUses) :
    (board.notifications.flatMap Notification.deliveries).filterMap Delivery.usageEvent? =
      FeatureNotice.history board.features.layered.submitted := by
  have ofFeatures : ∀ notices : List FeatureNotice,
      ((notices.map Notice.feature).flatMap fun notice =>
        (Desk.jobs board.features.listeners notice).map Job.payload).filterMap Delivery.usageEvent? =
          FeatureNotice.history notices := by
    intro notices
    rw [List.flatMap_map, List.filterMap_flatMap]
    unfold FeatureNotice.history
    rw [List.filterMap_eq_flatMap_toList]
    exact List.flatMap_congr fun notice _ => history_jobs counts.counter notice
  have ofProperties : ∀ notices : List PropertyNotice,
      ((notices.map Notice.property).flatMap fun notice =>
        (Desk.jobs board.properties.listeners notice).map Job.payload).filterMap Delivery.usageEvent? = [] := by
    intro notices
    rw [List.flatMap_map, List.filterMap_flatMap]
    exact List.flatMap_eq_nil_iff.mpr fun notice _ => history_jobs_of_property _ notice
  unfold Board.notifications
  rw [List.flatMap_append, Desk.deliveries_notifyAll, Desk.deliveries_notifyAll, List.filterMap_append,
    ofFeatures, ofProperties, List.append_nil]

/-- A board counts uses, and has submitted no notice that was not delivered. -/
structure Counting (board : Board) : Prop extends CountsUses board where
  delivered : board.features.layered.submitted = []

theorem CountsUses.deliver (counts : board.CountsUses) : board.deliver.Counting :=
  ⟨⟨counts.notifying, counts.notifies, counts.counter⟩, rfl⟩

theorem Counting.idle (counting : board.Counting) (idle : Collection.Idle board.features after.features)
    (same : after.evaluator = board.evaluator) : after.Counting := by
  obtain ⟨counts, submitted⟩ := counting.toCountsUses.idle idle same
  exact ⟨counts, submitted.trans counting.delivered⟩

theorem lasting_counting : Lasting Counting where
  run moment board counting := counting.idle (Collection.idle_run moment board.features) rfl
  close counting := ⟨⟨counting.notifying, counting.notifies, counting.counter⟩, counting.delivered⟩
  stop moment board counting := counting.idle (Collection.unnoticed_stopAll moment board.features) rfl

/-- **A step sends to the counter what it counts for the usage.** -/
theorem told_step (counting : board.Counting) (wall : Nat → Time.Instant) (now : Nat) {next : BoardStep}
    (leaves : next.LeavesCounter) :
    (board.step wall now next).2.2.Counting ∧
      ((board.notificationsIn wall now next).flatMap Notification.deliveries).filterMap Delivery.usageEvent? =
        board.usesIn wall now next := by
  cases next with
  | operation asked =>
    let changed := ((handle asked).perform ⟨now, wall now⟩ board).2
    obtain ⟨kept, tells⟩ := told_handle leaves ⟨now, wall now⟩ board counting.toCountsUses
    refine ⟨kept.deliver, ?_⟩
    show (changed.notifications.flatMap Notification.deliveries).filterMap Delivery.usageEvent? = _
    rw [history_notifications kept, tells, counting.delivered]
    rfl
  | settle | advance | drain | shutDown => exact ⟨lasting_counting.step counting (fun _ same => by cases same), rfl⟩

/-- **Steps send to the counter what they count for the usage.** -/
theorem told_runSteps (counting : board.Counting) (wall : Nat → Time.Instant) (now : Nat)
    {steps : List BoardStep} (leaves : ∀ next ∈ steps, next.LeavesCounter) :
    ((notificationsDuring wall (now, board) steps).flatMap Notification.deliveries).filterMap
      Delivery.usageEvent? = usesDuring wall (now, board) steps := by
  induction steps generalizing now board with
  | nil => rfl
  | cons next rest ih =>
    obtain ⟨first, others⟩ := List.forall_mem_cons.mp leaves
    obtain ⟨kept, told⟩ := told_step counting wall now first
    unfold notificationsDuring usesDuring
    rw [List.flatMap_append, List.filterMap_append, told, ih kept _ others]

/-! ### What the usage tells -/

/-- Notices wait at the desk; they are not in the journal yet. -/
theorem journal_deliver (board : Board) : board.deliver.desk.journal = board.desk.journal := by
  unfold deliver takeNotices
  dsimp only
  rw [Desk.journal_announceAll, Desk.journal_announceAll]

theorem lasting_countsAfter : Lasting fun board => board.desk.journal.CountsAfter told where
  run moment _ counts := Desk.countsAfter_run counts moment
  close counts := counts
  stop _ _ counts := counts

/-- **Every step but a reset leaves the usage tell what the counter was told.** -/
theorem countsAfter_step (counts : board.desk.journal.CountsAfter told) {next : BoardStep}
    (other : next ≠ .operation .resetUsage) :
    (board.step wall now next).2.2.desk.journal.CountsAfter told := by
  refine lasting_countsAfter.step counts fun asked performed => ?_
  subst performed
  have untouched : asked ≠ .resetUsage := fun same => other (congrArg BoardStep.operation same)
  have same := (untouched_handle untouched ⟨now, wall now⟩ board).desk
  rw [← same, ← journal_deliver] at counts
  exact counts

theorem countsAfter_runSteps (wall : Nat → Time.Instant) (now : Nat)
    (counts : board.desk.journal.CountsAfter told) {steps : List BoardStep}
    (never : .operation .resetUsage ∉ steps) :
    (runSteps wall (now, board) steps).2.desk.journal.CountsAfter told :=
  runSteps_keeps (fun board => board.desk.journal.CountsAfter told)
    (fun _ _ _ listed counts => countsAfter_step counts fun same => never (same ▸ listed)) counts

/-- **A reset begins a new count**: what was told before it is left out. -/
theorem countsAfter_reset (wall : Nat → Time.Instant) (now : Nat) (board : Board) :
    (board.step wall now (.operation .resetUsage)).2.2.desk.journal.CountsAfter board.desk.journal.begun := by
  have reset := Journal.countsAfter_reset board.desk.journal
  let changed := ((handle .resetUsage).perform ⟨now, wall now⟩ board).2
  show changed.deliver.desk.journal.CountsAfter _
  rw [journal_deliver]
  exact reset

/-- What is to be said of the usage after steps. -/
structure UsageTells (wall : Nat → Time.Instant) (start : Nat × Board) (steps : List BoardStep) : Prop where
  /-- If it was never reset, it tells the history of all steps. -/
  whole : .operation .resetUsage ∉ steps →
    (runSteps wall start steps).2.desk.journal.usage.Counts (usesDuring wall start steps)
  /-- Otherwise it tells what the counter had not been told when the usage was last reset. -/
  later : ∀ earlier later, steps = earlier ++ .operation .resetUsage :: later →
    .operation .resetUsage ∉ later →
      ∃ since, usesDuring wall start steps =
          (runSteps wall start earlier).2.desk.journal.begun.filterMap Delivery.usageEvent? ++ since ∧
        (runSteps wall start steps).2.desk.journal.usage.Counts since
  /-- A check of all features counts no hit. -/
  bulk : ∀ earlier context later, steps = earlier ++ .operation (.checkAll context) :: later →
    let reached := runSteps wall start earlier
    ∀ id, .hit id ∉ reached.2.usesIn wall reached.1 (.operation (.checkAll context))

/-- **When a board is shut down and no delivery was dropped, the counter has been told all that the steps count.** -/
theorem told_of_shutDown (fresh : board.IsNew) (counting : board.Counting) (wall : Nat → Time.Instant)
    (now : Nat) {steps : List BoardStep} (leaves : ∀ next ∈ steps, next.LeavesCounter)
    (ended : .shutDown ∈ steps)
    (undropped : (runSteps wall (now, board) steps).2.desk.dispatcher.stats.dropped = 0) :
    (runSteps wall (now, board) steps).2.desk.journal.begun.filterMap Delivery.usageEvent? =
      usesDuring wall (now, board) steps := by
  have accounted := accounted_runSteps wall (fresh.accounted now) steps
  have begun := begun_of_shut accounted (accounted.closed (isClosed_of_shutDown wall now board ended))
  have counted := (counted_runSteps wall now fresh.counted steps).dropped
  rw [undropped] at counted
  have accepted := Notification.accepted_of_undropped (fair_notificationsDuring wall (now, board) steps) counted.symm
  rw [begun, ← told_runSteps counting wall now leaves]
  exact congrArg (List.filterMap Delivery.usageEvent?) accepted

/-- **The usage tells the history of a run** in which no delivery is dropped and the board is shut down. -/
theorem usageTells_of_new (fresh : board.IsNew) (counting : board.Counting) (wall : Nat → Time.Instant)
    (now : Nat) {steps : List BoardStep} (leaves : ∀ next ∈ steps, next.LeavesCounter)
    (ended : .shutDown ∈ steps)
    (undropped : (runSteps wall (now, board) steps).2.desk.dispatcher.stats.dropped = 0) :
    UsageTells wall (now, board) steps := by
  let reached := runSteps wall (now, board) steps
  let told (deliveries : List Delivery) := deliveries.filterMap Delivery.usageEvent?
  have all : told reached.2.desk.journal.begun = usesDuring wall (now, board) steps :=
    told_of_shutDown fresh counting wall now leaves ended undropped
  have tells : ∀ before, reached.2.desk.journal.CountsAfter before →
      ∃ since, usesDuring wall (now, board) steps = told before ++ since ∧
        reached.2.desk.journal.usage.Counts since := by
    rintro before ⟨later, parted, usage⟩
    refine ⟨told later, ?_, ?_⟩
    · rw [← all, parted]
      exact List.filterMap_append
    · rw [usage]
      exact Usage.counts_replay _
  refine ⟨fun never => ?_, ?_, ?_⟩
  · have start : board.desk.journal.CountsAfter [] := by
      obtain ⟨⟨workers, capacity, timeout, desk⟩, _⟩ := fresh
      rw [desk]
      exact ⟨[], rfl, rfl⟩
    obtain ⟨since, history, counts⟩ := tells [] (countsAfter_runSteps wall now start never)
    rw [history]
    exact counts
  · rintro earlier later rfl never
    refine tells _ ?_
    show (runSteps wall (now, board) (earlier ++ .operation .resetUsage :: later)).2.desk.journal.CountsAfter _
    rw [runSteps_append]
    exact countsAfter_runSteps wall _ (countsAfter_reset wall _ _) never
  · intro earlier context later _ reached id
    exact FeatureOperation.noHit_checkAll _ _ _ _ _

end Board

/-! ### Boards of blueprints -/

namespace Blueprint

/-- None of the listeners of a blueprint takes the place of the counter of uses. -/
def LeavesCounter (blueprint : Blueprint) : Prop :=
  ∀ entry ∈ blueprint.featureListeners, entry.1 ≠ usageListener ∧ entry.2 ≠ .usage

/-- The counter of uses is registered first, and the others leave it alone. -/
theorem countAs_register {others : List (String × Listener)}
    (leave : ∀ entry ∈ others, entry.1 ≠ usageListener ∧ entry.2 ≠ .usage) :
    Listeners.CountAs usageListener (register ((usageListener, .usage) :: others)) := by
  have first : Listeners.CountAs usageListener (Std.ExtTreeMap.insert ∅ usageListener .usage) := by
    intro other
    rw [Table.getElem?_insert_eq]
    by_cases same : usageListener = other
    · exact iff_of_true (if_pos same) same.symm
    · rw [if_neg same]
      exact iff_of_false (fun held => by cases held) (Ne.symm same)
  exact List.foldlRecOn others _ first fun _ counts entry listed =>
    counts.insert (leave entry listed).1 (leave entry listed).2

theorem counting_build {blueprint : Blueprint} (leaves : blueprint.LeavesCounter) (moment : Moment) :
    (blueprint.build moment).Counting := by
  have counter : Listeners.CountAs usageListener blueprint.board.features.listeners := by
    refine countAs_register fun entry listed => ?_
    rcases List.mem_append.mp listed with audits | given
    · unfold auditors at audits
      split at audits
      · cases List.mem_singleton.mp audits
        exact ⟨show auditListener ≠ usageListener by decide, nofun⟩
      · cases audits
    · exact leaves entry given
  have counting : blueprint.board.Counting := ⟨⟨rfl, rfl, counter⟩, rfl⟩
  exact counting.idle (Collection.unnoticed_startAll moment blueprint.board.features) rfl

/-- **The usage tells the history of every run** of a board that was made from a blueprint, in which nobody takes the
place of the counter of uses, no delivery is dropped, and the board is shut down, however the other listeners end and
however many workers there are. If the usage is never reset, it tells of each feature how often checks found it on
after it was last deleted; else it tells this of what the counter had not been told by the last reset. -/
theorem usage_tells_history {blueprint : Blueprint} (untouched : blueprint.LeavesCounter)
    (wall : Nat → Time.Instant) (now : Nat) {steps : List BoardStep}
    (leaves : ∀ next ∈ steps, next.LeavesCounter) (ended : .shutDown ∈ steps)
    (undropped :
      (Board.runSteps wall (now, blueprint.build ⟨now, wall now⟩) steps).2.desk.dispatcher.stats.dropped = 0) :
    Board.UsageTells wall (now, blueprint.build ⟨now, wall now⟩) steps :=
  Board.usageTells_of_new (blueprint.isNew_build _) (counting_build untouched _) wall now leaves ended undropped

/-- A lamp and a bell are found on, the bell is deleted, and the lamp is found on once more, also by a check of all
features, while one of the listeners hangs: two uses of the lamp are counted. -/
theorem usage_tells_history_of_lamp :
    let on := fun id => { Feature.new id .epoch with enabled := true }
    let blueprint : Blueprint :=
      { settings :=
          { cache := ⟨true, 10, 1, 3⟩, refresh := ⟨true, 1, 2⟩, notifier := ⟨2, 32, 100⟩
            evaluator := ⟨true, false⟩, logging := ⟨"info", false⟩ }
        features := (Store.empty.insert (on "lamp")).insert (on "bell")
        featureListeners := [("a", .recorder .never)] }
    let wall : Nat → Time.Instant := fun _ => .epoch
    let steps : List BoardStep :=
      [.operation (.evaluate "lamp" .empty none), .operation (.evaluate "bell" .empty none),
        .operation (.features (.call (.store (.delete "bell")))), .advance 7,
        .operation (.evaluate "lamp" .empty none), .operation (.checkAll .empty), .shutDown]
    let start := (0, blueprint.build ⟨0, wall 0⟩)
    let reached := (Board.runSteps wall start steps).2
    blueprint.LeavesCounter ∧ (∀ next ∈ steps, next.LeavesCounter) ∧ .shutDown ∈ steps ∧
      reached.desk.dispatcher.stats.dropped = 0 ∧ Board.UsageTells wall start steps ∧
      Board.usesDuring wall start steps = [.hit "lamp", .hit "bell", .removed "bell", .hit "lamp"] ∧
      reached.desk.journal.usage.hits "lamp" = 2 ∧ reached.desk.journal.usage.hits "bell" = 0 := by
  intro on blueprint wall steps start reached
  have untouched : blueprint.LeavesCounter := by
    intro entry listed
    cases List.mem_singleton.mp listed
    exact ⟨show "a" ≠ usageListener by decide, nofun⟩
  have leaves : ∀ next ∈ steps, next.LeavesCounter := by
    intro next listed
    simp only [steps, List.mem_cons, List.not_mem_nil, or_false] at listed
    rcases listed with rfl | rfl | rfl | rfl | rfl | rfl | rfl <;> trivial
  have ended : .shutDown ∈ steps := List.mem_of_getLast? rfl
  have undropped : reached.desk.dispatcher.stats.dropped = 0 := by decide +kernel
  refine ⟨untouched, leaves, ended, undropped,
    usage_tells_history untouched wall 0 leaves ended undropped, ?_, ?_, ?_⟩
  · decide +kernel
  · decide +kernel
  · decide +kernel

/-- **A reset forgets uses**: a lamp is found on, and the usage is reset before the board is shut down. Nobody takes the
place of the counter and no delivery is dropped, but the use is not counted any more. -/
theorem usage_can_be_reset :
    let blueprint : Blueprint :=
      { settings :=
          { cache := ⟨false, 10, 1, 3⟩, refresh := ⟨false, 1, 2⟩, notifier := ⟨1, 8, 100⟩
            evaluator := ⟨false, false⟩, logging := ⟨"info", false⟩ }
        features := Store.empty.insert { Feature.new "lamp" .epoch with enabled := true } }
    let wall : Nat → Time.Instant := fun _ => .epoch
    let steps : List BoardStep :=
      [.operation (.evaluate "lamp" .empty none), .settle, .operation .resetUsage, .shutDown]
    let start := (0, blueprint.build ⟨0, wall 0⟩)
    let reached := (Board.runSteps wall start steps).2
    blueprint.LeavesCounter ∧ (∀ next ∈ steps, next.LeavesCounter) ∧ .shutDown ∈ steps ∧
      reached.desk.dispatcher.stats.dropped = 0 ∧
      UsageEvent.count "lamp" (Board.usesDuring wall start steps) = 1 ∧
      reached.desk.journal.usage.hits "lamp" = 0 ∧
      ¬reached.desk.journal.usage.Counts (Board.usesDuring wall start steps) := by
  intro blueprint wall steps start reached
  have leaves : ∀ next ∈ steps, next.LeavesCounter := by
    intro next listed
    simp only [steps, List.mem_cons, List.not_mem_nil, or_false] at listed
    rcases listed with rfl | rfl | rfl | rfl <;> trivial
  have untouched : blueprint.LeavesCounter := fun _ listed => by cases listed
  have ended : .shutDown ∈ steps := List.mem_of_getLast? rfl
  have undropped : reached.desk.dispatcher.stats.dropped = 0 := by decide +kernel
  have used : UsageEvent.count "lamp" (Board.usesDuring wall start steps) = 1 := by decide +kernel
  have forgotten : reached.desk.journal.usage.hits "lamp" = 0 := by decide +kernel
  refine ⟨untouched, leaves, ended, undropped, used, forgotten, fun counts => ?_⟩
  have same := counts.hits "lamp"
  rw [used, forgotten] at same
  cases same

end Blueprint

end Switchboard

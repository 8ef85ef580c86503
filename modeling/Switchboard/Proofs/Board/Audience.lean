/-
**Boards with other listeners.**

* `Audience heard desks` — a relation of listeners and one of desks that registrations, notices and time keep.
* `Board.Alike heard desks` — two boards that differ in nothing but their listeners and desks, and in these only as the
  two relations allow.
* `Board.tells` — what an operation tells of listeners: a registration and a removal tell whether there was one.
* `Board.handle_alike` — boards that are alike stay so under every operation, and answer it alike unless it tells of a
  listener that only one of them has.
* `Board.runSteps_alike` — they stay so in every run in which the deliveries do not end, whatever happens at the desks.
-/

import Switchboard.Proofs.Board.Deliveries
import Switchboard.Proofs.Board.Waiting

namespace Switchboard

open Act

/-- A relation of listeners and one of desks that registrations, notices and time keep. -/
structure Audience (heard : Listeners → Listeners → Prop) (desks : Desk → Desk → Prop) : Prop where
  insert : ∀ {listeners listeners'} name listener, heard listeners listeners' →
    heard (listeners.insert name listener) (listeners'.insert name listener)
  erase : ∀ {listeners listeners'} name, heard listeners listeners' →
    heard (listeners.erase name) (listeners'.erase name)
  announce : ∀ {listeners listeners' desk desk'} notice, heard listeners listeners' → desks desk desk' →
    desks (desk.announce listeners notice) (desk'.announce listeners' notice)
  run : ∀ {desk desk'} moment, desks desk desk' → desks (desk.run moment) (desk'.run moment)
  advance : ∀ {desk desk'} wall now target, desks desk desk' →
    desks (Timed.advance wall now target desk) (Timed.advance wall now target desk')
  resetUsage : ∀ {desk desk'}, desks desk desk' →
    desks { desk with journal := { desk.journal with usage := Usage.reset } }
      { desk' with journal := { desk'.journal with usage := Usage.reset } }

variable {heard : Listeners → Listeners → Prop} {desks : Desk → Desk → Prop}

theorem Audience.announceAll (audience : Audience heard desks) {listeners listeners' : Listeners}
    (listening : heard listeners listeners') (notices : List Notice) {desk desk' : Desk}
    (start : desks desk desk') :
    desks (notices.foldl (Desk.announce listeners) desk) (notices.foldl (Desk.announce listeners') desk') := by
  induction notices generalizing desk desk' with
  | nil => exact start
  | cons notice rest ih => exact ih (audience.announce notice listening start)

/-! ### Collections -/

/-- The name under which a call registers or removes a listener. -/
def CollectionCall.listener? {C : Type} : CollectionCall C → Option String
  | register name _ | unregister name => some name
  | call _ | direct _ | setOnline _ | clearCache | refresh | startRefreshing | stopRefreshing
  | startSweeping | stopSweeping => none

namespace Collection

variable {E N α : Type} {left right : Collection E N}

/-- Two collections that differ in nothing but their listeners. -/
structure Alike (heard : Listeners → Listeners → Prop) (left right : Collection E N) : Prop where
  layers : left.layers = right.layers
  layered : left.layered = right.layered
  refresher : left.refresher = right.refresher
  sweeper : left.sweeper = right.sweeper
  listeners : heard left.listeners right.listeners

/-! ### Calls -/

theorem onLayered_alike (action : Act (Layered E N) α) :
    Agree (Alike heard) (onLayered action) (onLayered action) :=
  (Agree.refl action).onPart (fun _ _ alike => alike.layered) fun _ _ _ _ alike changed =>
    { alike with layered := changed }

theorem tally_alike (change : RefreshStats → RefreshStats) :
    Agree (Alike (E := E) (N := N) heard) (tally change) (tally change) :=
  Agree.modify fun _ _ alike => { alike with refresher := congrArg (Option.map _) alike.refresher }

theorem turnRefresher_alike (turn : Nat → Periodic → Bool × Periodic) :
    Agree (Alike (E := E) (N := N) heard) (turnRefresher turn) (turnRefresher turn) := by
  refine Agree.clock.bind fun clock moment left right alike => ?_
  rw [perform_modifyGet, perform_modifyGet, alike.refresher]
  cases right.refresher with
  | none => exact ⟨rfl, alike⟩
  | some refresher => exact ⟨rfl, { alike with refresher := rfl }⟩

theorem turnSweeper_alike (turn : Nat → Periodic → Bool × Periodic) :
    Agree (Alike (E := E) (N := N) heard) (turnSweeper turn) (turnSweeper turn) := by
  refine Agree.clock.bind fun clock moment left right alike => ?_
  rw [perform_modifyGet, perform_modifyGet, alike.sweeper]
  cases right.sweeper with
  | none => exact ⟨rfl, alike⟩
  | some sweeper => exact ⟨rfl, { alike with sweeper := rfl }⟩

theorem startAll_alike : Agree (Alike (E := E) (N := N) heard) startAll startAll :=
  (turnRefresher_alike started).bind fun _ => (turnSweeper_alike started).bind fun _ => Agree.pure _

variable [Entity E]

theorem refresh_alike : Agree (Alike (E := E) (N := N) heard) refresh refresh := by
  refine (onLayered_alike _).attempt.bind fun outcome => ?_
  cases outcome with
  | ok loaded => exact Agree.now.bind fun now => (tally_alike _).bind fun _ => Agree.pure _
  | error fault => exact (tally_alike _).bind fun _ => Agree.throw _

/-- **Collections that are alike stay so under every call**, and answer it alike unless it tells of a listener that
only one of them has. -/
theorem handle_alike {C : Type} {Reply : C → Type} {layered : Layers → Handler Reply (Layered E N)}
    {plain : Handler Reply (Backend E)} (audience : Audience heard desks) (call : CollectionCall C)
    (moment : Moment) (alike : Alike heard left right) :
    (call.listener?.map left.listeners.contains = call.listener?.map right.listeners.contains →
      ((handle layered plain call).perform moment left).1 =
        ((handle layered plain call).perform moment right).1) ∧
      Alike heard ((handle layered plain call).perform moment left).2
        ((handle layered plain call).perform moment right).2 := by
  cases call with
  | call call =>
    refine Agree.supposing (Agree.get_bind fun left right alike => ?_) _ alike
    dsimp only
    rw [alike.layers]
    exact onLayered_alike _
  | direct call => exact (onLayered_alike _).supposing _ alike
  | setOnline online => exact (onLayered_alike _).supposing _ alike
  | clearCache => exact (onLayered_alike _).supposing _ alike
  | refresh => exact refresh_alike.supposing _ alike
  | startRefreshing => exact (turnRefresher_alike started).supposing _ alike
  | stopRefreshing => exact (turnRefresher_alike stopped).supposing _ alike
  | startSweeping => exact (turnSweeper_alike started).supposing _ alike
  | stopSweeping => exact (turnSweeper_alike stopped).supposing _ alike
  | register name listener =>
    refine ⟨fun told => ?_, { alike with listeners := audience.insert name listener alike.listeners }⟩
    exact congrArg Except.ok (Option.some.inj told)
  | unregister name =>
    refine ⟨fun told => ?_, { alike with listeners := audience.erase name alike.listeners }⟩
    exact congrArg Except.ok (Option.some.inj told)

omit [Entity E] in
/-- The notices are taken from both. -/
theorem Alike.taken (alike : Alike heard left right) :
    Alike (E := E) (N := N) heard { left with layered := { left.layered with submitted := [] } }
      { right with layered := { right.layered with submitted := [] } } :=
  { alike with layered := congrArg (Notified.mk []) (congrArg Notified.below alike.layered) }

/-! ### What is due -/

section Due

variable (moment : Moment)

omit [Entity E] in
theorem Alike.repeatedly {action : Act (Collection E N) α}
    (agree : Agree (Alike heard) action action) (times : Nat) (alike : Alike heard left right) :
    Alike heard (repeatedly action times moment left) (repeatedly action times moment right) := by
  unfold Collection.repeatedly
  induction times with
  | zero => exact alike
  | succ times ih => exact (agree moment _ _ ih).2

theorem Alike.runRefresher (alike : Alike heard left right) :
    Alike heard (left.runRefresher moment) (right.runRefresher moment) := by
  unfold Collection.runRefresher
  rw [alike.refresher]
  cases right.refresher with
  | none => exact alike
  | some refresher => exact Alike.repeatedly moment refresh_alike _ { alike with refresher := rfl }

omit [Entity E] in
theorem Alike.runSweeper (alike : Alike heard left right) :
    Alike heard (left.runSweeper moment) (right.runSweeper moment) := by
  unfold Collection.runSweeper
  rw [alike.sweeper]
  cases right.sweeper with
  | none => exact alike
  | some sweeper => exact Alike.repeatedly moment (onLayered_alike _) _ { alike with sweeper := rfl }

/-- **What is due leaves collections alike.** -/
theorem Alike.run (alike : Alike heard left right) : Alike heard (left.run moment) (right.run moment) :=
  (alike.runRefresher moment).runSweeper moment

end Due

/-- **Collections that are alike stay so as time passes.** -/
theorem Alike.advance (alike : Alike heard left right) (wall : Nat → Time.Instant) (now target : Nat) :
    Alike heard (Timed.advance wall now target left) (Timed.advance wall now target right) := by
  refine Timed.advance_alike (Alike heard) (fun left right alike => ?_) (fun moment _ _ alike => alike.run moment)
    alike
  show left.due? = right.due?
  unfold due?
  rw [alike.refresher, alike.sweeper]

end Collection

/-! ### Boards -/

namespace Board

variable {α : Type} {left right : Board} {wall : Nat → Time.Instant} {now target : Nat}

/-- Two boards that differ in nothing but their listeners and desks. -/
structure Alike (heard : Listeners → Listeners → Prop) (desks : Desk → Desk → Prop) (left right : Board) :
    Prop where
  features : Collection.Alike heard left.features right.features
  properties : Collection.Alike heard left.properties right.properties
  desk : desks left.desk right.desk
  evaluator : left.evaluator = right.evaluator
  defaults : left.defaults = right.defaults
  isClosed : left.isClosed = right.isClosed

/-- What an operation tells of the listeners of a board: a registration and a removal tell whether there was one under
the name. -/
def tells (board : Board) : Operation → Option Bool
  | .features call => call.listener?.map board.features.listeners.contains
  | .properties call => call.listener?.map board.properties.listeners.contains
  | .evaluate _ _ _ | .checkAll _ | .secured _ _ | .prepare | .setDefaults _ | .refreshCaches
  | .resetUsage => none

/-! ### Operations -/

theorem onFeatures_alike {action : Act (Collection Feature FeatureNotice) α}
    (agree : Agree (Collection.Alike heard) action action) :
    Agree (Alike heard desks) (onFeatures action) (onFeatures action) :=
  agree.onPart (fun _ _ alike => alike.features) fun _ _ _ _ alike changed =>
    { alike with features := changed }

theorem onProperties_alike {action : Act (Collection Property PropertyNotice) α}
    (agree : Agree (Collection.Alike heard) action action) :
    Agree (Alike heard desks) (onProperties action) (onProperties action) :=
  agree.onPart (fun _ _ alike => alike.properties) fun _ _ _ _ alike changed =>
    { alike with properties := changed }

theorem onFeatureRepository_alike (action : FeatureHandler (Layered Feature FeatureNotice) →
      Act (Layered Feature FeatureNotice) α) :
    Agree (Alike heard desks) (onFeatureRepository action) (onFeatureRepository action) := by
  refine Agree.get_bind fun left right alike => ?_
  dsimp only
  rw [alike.features.layers]
  exact onFeatures_alike (Collection.onLayered_alike _)

theorem refreshCaches_alike : Agree (Alike heard desks) refreshCaches refreshCaches := by
  have properties : Agree (Alike heard desks) refreshProperties refreshProperties := by
    refine Agree.get_bind fun left right alike => ?_
    rw [alike.properties.refresher]
    exact Agree.ite ((onProperties_alike Collection.refresh_alike).bind fun _ => Agree.pure _)
      (Agree.pure _)
  refine Agree.get_bind fun left right alike => ?_
  rw [alike.features.refresher]
  exact Agree.ite ((onFeatures_alike Collection.refresh_alike).bind fun _ => properties) properties

theorem prepare_alike (audience : Audience heard desks) :
    Agree (Alike heard desks) (handle .prepare) (handle .prepare) := by
  have features : Agree (Collection.Alike heard) (featureCalls (.call (.store .prepare)))
      (featureCalls (.call (.store .prepare))) := fun moment _ _ alike =>
    (Collection.handle_alike audience _ moment alike).imp_left fun same => same rfl
  have properties : Agree (Collection.Alike heard) (propertyCalls (.call (.store .prepare)))
      (propertyCalls (.call (.store .prepare))) := fun moment _ _ alike =>
    (Collection.handle_alike audience _ moment alike).imp_left fun same => same rfl
  exact (onFeatures_alike features).bind fun _ => onProperties_alike properties

/-- **Boards that are alike stay so under every operation**, and answer it alike unless it tells of a listener that only
one of them has. -/
theorem handle_alike (audience : Audience heard desks) (operation : Operation) (moment : Moment)
    (alike : Alike heard desks left right) :
    (left.tells operation = right.tells operation →
      ((handle operation).perform moment left).1 = ((handle operation).perform moment right).1) ∧
      Alike heard desks ((handle operation).perform moment left).2
        ((handle operation).perform moment right).2 := by
  cases operation with
  | features call =>
    obtain ⟨same, after⟩ := Collection.handle_alike audience call moment alike.features
    exact ⟨same, { alike with features := after }⟩
  | properties call =>
    obtain ⟨same, after⟩ := Collection.handle_alike audience call moment alike.properties
    exact ⟨same, { alike with properties := after }⟩
  | evaluate id context override =>
    refine Agree.supposing (Agree.get_bind fun left right alike => ?_) _ alike
    rw [alike.evaluator, alike.defaults]
    exact onFeatureRepository_alike _
  | checkAll context =>
    refine Agree.supposing (Agree.get_bind fun left right alike => ?_) _ alike
    rw [alike.evaluator, alike.defaults]
    exact onFeatureRepository_alike _
  | secured principal call => exact (onFeatureRepository_alike _).supposing _ alike
  | prepare => exact (prepare_alike audience).supposing _ alike
  | setDefaults context => exact ⟨fun _ => rfl, { alike with defaults := rfl }⟩
  | refreshCaches => exact refreshCaches_alike.supposing _ alike
  | resetUsage => exact ⟨fun _ => rfl, { alike with desk := audience.resetUsage alike.desk }⟩

/-! ### Deliveries and time -/

theorem Alike.deliver (audience : Audience heard desks) (alike : Alike heard desks left right) :
    Alike heard desks left.deliver right.deliver where
  features := alike.features.taken
  properties := alike.properties.taken
  desk := by
    unfold Board.deliver takeNotices
    dsimp only
    rw [alike.features.layered, alike.properties.layered]
    refine audience.announceAll alike.properties.listeners _ ?_
    exact audience.announceAll alike.features.listeners _ alike.desk
  evaluator := alike.evaluator
  defaults := alike.defaults
  isClosed := alike.isClosed

theorem Alike.run (audience : Audience heard desks) (moment : Moment) (alike : Alike heard desks left right) :
    Alike heard desks (left.run moment) (right.run moment) :=
  { alike with
    features := alike.features.run moment
    properties := alike.properties.run moment
    desk := audience.run moment alike.desk }

/-- **Boards that are alike stay so as time passes**, although their desks are woken at different times. -/
theorem Alike.pass (audience : Audience heard desks) (wall : Nat → Time.Instant) (now target : Nat)
    (alike : Alike heard desks left right) :
    Alike heard desks (left.pass wall now target) (right.pass wall now target) := by
  have settled := alike.run audience ⟨now, wall now⟩
  have idle := idle_advance wall now target (left.run ⟨now, wall now⟩)
  have idle' := idle_advance wall now target (right.run ⟨now, wall now⟩)
  refine ⟨?_, ?_, ?_, ?_, ?_, ?_⟩
  · rw [features_pass, features_pass]
    exact settled.features.advance wall now target
  · rw [properties_pass, properties_pass]
    exact settled.properties.advance wall now target
  · rw [desk_pass, desk_pass]
    exact audience.advance wall now target settled.desk
  · exact idle.evaluator.trans (settled.evaluator.trans idle'.evaluator.symm)
  · exact idle.defaults.trans (settled.defaults.trans idle'.defaults.symm)
  · exact idle.isClosed.trans (settled.isClosed.trans idle'.isClosed.symm)

/-! ### Steps -/

/-- **Boards stay alike in every step** in which the deliveries do not end. -/
theorem step_alike (audience : Audience heard desks) (alike : Alike heard desks left right)
    {next : BoardStep} (going : ¬next.Ends) :
    (left.step wall now next).1 = (right.step wall now next).1 ∧
      Alike heard desks (left.step wall now next).2.2 (right.step wall now next).2.2 := by
  cases next with
  | operation asked =>
    obtain ⟨_, performed⟩ := handle_alike audience asked ⟨now, wall now⟩ alike
    exact ⟨rfl, performed.deliver audience⟩
  | settle => exact ⟨rfl, alike.run audience ⟨now, wall now⟩⟩
  | advance millis => exact ⟨rfl, alike.pass audience wall now (now + millis)⟩
  | drain => exact absurd trivial going
  | shutDown => exact absurd trivial going

/-- **Boards stay alike in every run** in which the deliveries do not end. -/
theorem runSteps_alike (audience : Audience heard desks) (alike : Alike heard desks left right)
    {steps : List BoardStep} (going : ∀ next ∈ steps, ¬next.Ends) :
    (runSteps wall (now, left) steps).1 = (runSteps wall (now, right) steps).1 ∧
      Alike heard desks (runSteps wall (now, left) steps).2 (runSteps wall (now, right) steps).2 := by
  induction steps generalizing now left right with
  | nil => exact ⟨rfl, alike⟩
  | cons next rest ih =>
    obtain ⟨clock, after⟩ : (left.step wall now next).1 = (right.step wall now next).1 ∧ _ :=
      step_alike audience alike (going next List.mem_cons_self)
    unfold runSteps
    rw [← clock]
    exact ih after fun later listed => going later (List.mem_cons_of_mem _ listed)

theorem startAll_alike (moment : Moment) (alike : Alike heard desks left right) :
    Alike heard desks (left.startAll moment) (right.startAll moment) := by
  have started : Agree (Alike heard desks)
      (onFeatures Collection.startAll *> onProperties Collection.startAll)
      (onFeatures Collection.startAll *> onProperties Collection.startAll) :=
    (onFeatures_alike Collection.startAll_alike).bind fun _ =>
      onProperties_alike Collection.startAll_alike
  exact (started moment left right alike).2

end Board

end Switchboard

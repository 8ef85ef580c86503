/-
**Boards with and without caches.**

* `Board.Twin` — a board with coherent caches and one without caches, with the same contents, notices,
  listeners, desk and evaluation.
* `Operation.Through` — an operation changes stores only through the layers above them;
  `Operation.Control` — it starts or stops what happens in the background.
* `Board.handle_agree` — twins answer every other operation alike and stay twins.
-/

import Switchboard.Board.Operation
import Switchboard.Proofs.Board.Background

namespace Switchboard

open Act

/-! ### Collections -/

/-- A call changes the store only through the layers above it. -/
def CollectionCall.Through {C : Type} : CollectionCall C → Prop
  | direct _ | setOnline _ => False
  | call _ | register _ _ | unregister _ | clearCache | refresh | startRefreshing | stopRefreshing
  | startSweeping | stopSweeping => True

/-- A call starts or stops what happens in the background. -/
def CollectionCall.Control {C : Type} : CollectionCall C → Prop
  | startRefreshing | stopRefreshing | startSweeping | stopSweeping => True
  | call _ | direct _ | setOnline _ | register _ _ | unregister _ | clearCache | refresh => False

namespace Collection

variable {E N α : Type} [Entity E] {C : Type} {Reply : C → Type}
  {layered : Layers → Handler Reply (Layered E N)} {plain : Handler Reply (Backend E)}

theorem onLayered_agree {left right : Act (Layered E N) α}
    (agree : Agree (Notified.Alike [] [] Cached.Twin) left right) :
    Agree Twin (onLayered left) (onLayered right) := by
  refine agree.onPart (fun _ _ twin => twin.layered) fun _ _ _ _ twin changed => ?_
  exact ⟨twin.layers, twin.plainLayers, changed, twin.listeners⟩

/-- Actions that go unnoticed agree on twins if they have the same outcome there. -/
theorem agree_of_unnoticed {action : Act (Collection E N) α} (unnoticed : Unnoticed action)
    (same : ∀ moment decorated plain, Twin decorated plain →
      (action.perform moment decorated).1 = (action.perform moment plain).1) :
    Agree Twin action action :=
  fun moment decorated plain twin =>
    ⟨same moment decorated plain twin,
      twin.idle (unnoticed moment decorated) (unnoticed moment plain)⟩

theorem refresh_agree : Agree Twin (refresh (E := E) (N := N)) refresh := by
  refine agree_of_unnoticed unnoticed_refresh fun moment decorated plain twin => ?_
  have below := twin.layered.2
  rw [refresh_of_online below.online, refresh_of_online below.plainOnline]
  exact congrArg (fun store : Store E => Except.ok store.toList.length) below.store

/-- **Twins answer the calls of a collection alike.** -/
theorem handle_agree
    (agree : ∀ call, Agree (Notified.Alike [] [] Cached.Twin)
      (layered { cached := true, notifying := true } call)
      (layered { cached := false, notifying := true } call))
    {call : CollectionCall C} (through : call.Through) (answered : ¬call.Control) :
    Agree Twin (handle layered plain call) (handle layered plain call) := by
  cases call with
  | call call =>
    refine Agree.get_bind fun decorated plain twin => ?_
    dsimp only
    rw [twin.layers, twin.plainLayers]
    exact onLayered_agree (agree call)
  | direct call => exact through.elim
  | setOnline online => exact through.elim
  | register name listener =>
    refine Agree.modifyGet ?_ ?_
    · intro decorated plain twin
      rw [twin.listeners]
    · intro decorated plain twin
      exact ⟨twin.layers, twin.plainLayers, twin.layered,
        congrArg (fun listeners : Listeners => listeners.insert name listener) twin.listeners⟩
  | unregister name =>
    refine Agree.modifyGet ?_ ?_
    · intro decorated plain twin
      rw [twin.listeners]
    · intro decorated plain twin
      exact ⟨twin.layers, twin.plainLayers, twin.layered,
        congrArg (fun listeners : Listeners => listeners.erase name) twin.listeners⟩
  | clearCache => exact agree_of_unnoticed unnoticed_clear fun _ _ _ _ => rfl
  | refresh => exact refresh_agree
  | startRefreshing | stopRefreshing | startSweeping | stopSweeping => exact absurd trivial answered

theorem unnoticed_control {call : CollectionCall C} (control : call.Control) :
    Unnoticed (handle layered plain call) := by
  cases call with
  | startRefreshing => exact unnoticed_turnRefresher started
  | stopRefreshing => exact unnoticed_turnRefresher stopped
  | startSweeping => exact unnoticed_turnSweeper started
  | stopSweeping => exact unnoticed_turnSweeper stopped
  | call call => exact control.elim
  | direct call => exact control.elim
  | setOnline online => exact control.elim
  | register name listener => exact control.elim
  | unregister name => exact control.elim
  | clearCache => exact control.elim
  | refresh => exact control.elim

end Collection

/-! ### Boards -/

/-- An operation changes stores only through the layers above them. -/
def Operation.Through : Operation → Prop
  | features call => call.Through
  | properties call => call.Through
  | evaluate _ _ _ | checkAll _ | secured _ _ | prepare | setDefaults _ | refreshCaches | resetUsage =>
    True

/-- An operation starts or stops what happens in the background. -/
def Operation.Control : Operation → Prop
  | features call => call.Control
  | properties call => call.Control
  | evaluate _ _ _ | checkAll _ | secured _ _ | prepare | setDefaults _ | refreshCaches | resetUsage =>
    False

namespace Board

variable {α : Type}

/-- A board with coherent caches and one without caches, with the same contents, notices, listeners, desk
and evaluation. -/
structure Twin (decorated plain : Board) : Prop where
  features : Collection.Twin decorated.features plain.features
  properties : Collection.Twin decorated.properties plain.properties
  desk : decorated.desk = plain.desk
  evaluator : decorated.evaluator = plain.evaluator
  defaults : decorated.defaults = plain.defaults
  isClosed : decorated.isClosed = plain.isClosed

/-- A change of the collections that no twin and no listener can notice. -/
structure Idle (before after : Board) : Prop where
  features : Collection.Idle before.features after.features
  properties : Collection.Idle before.properties after.properties
  desk : after.desk = before.desk
  evaluator : after.evaluator = before.evaluator
  defaults : after.defaults = before.defaults
  isClosed : after.isClosed = before.isClosed

theorem Idle.refl (board : Board) : Idle board board :=
  ⟨Collection.Idle.refl _, Collection.Idle.refl _, rfl, rfl, rfl, rfl⟩

theorem Idle.trans {first second third : Board} (early : Idle first second) (late : Idle second third) :
    Idle first third where
  features := early.features.trans late.features
  properties := early.properties.trans late.properties
  desk := late.desk.trans early.desk
  evaluator := late.evaluator.trans early.evaluator
  defaults := late.defaults.trans early.defaults
  isClosed := late.isClosed.trans early.isClosed

theorem Twin.idle {decorated plain decorated' plain' : Board} (twin : Twin decorated plain)
    (left : Idle decorated decorated') (right : Idle plain plain') : Twin decorated' plain' where
  features := twin.features.idle left.features right.features
  properties := twin.properties.idle left.properties right.properties
  desk := (left.desk.trans twin.desk).trans right.desk.symm
  evaluator := (left.evaluator.trans twin.evaluator).trans right.evaluator.symm
  defaults := (left.defaults.trans twin.defaults).trans right.defaults.symm
  isClosed := (left.isClosed.trans twin.isClosed).trans right.isClosed.symm

/-! ### Parts of boards -/

theorem onFeatures_agree {left right : Act (Collection Feature FeatureNotice) α}
    (agree : Agree Collection.Twin left right) : Agree Twin (onFeatures left) (onFeatures right) := by
  refine agree.onPart (fun _ _ twin => twin.features) fun _ _ _ _ twin changed => ?_
  exact { twin with features := changed }

theorem onProperties_agree {left right : Act (Collection Property PropertyNotice) α}
    (agree : Agree Collection.Twin left right) :
    Agree Twin (onProperties left) (onProperties right) := by
  refine agree.onPart (fun _ _ twin => twin.properties) fun _ _ _ _ twin changed => ?_
  exact { twin with properties := changed }

theorem idle_onFeatures {action : Act (Collection Feature FeatureNotice) α}
    (unnoticed : Collection.Unnoticed action) (moment : Moment) (board : Board) :
    Idle board ((onFeatures action).perform moment board).2 :=
  { Idle.refl board with features := unnoticed moment board.features }

theorem idle_onProperties {action : Act (Collection Property PropertyNotice) α}
    (unnoticed : Collection.Unnoticed action) (moment : Moment) (board : Board) :
    Idle board ((onProperties action).perform moment board).2 :=
  { Idle.refl board with properties := unnoticed moment board.properties }

/-! ### Operations -/

theorem features_agree (call : FeatureCall) :
    Agree (Notified.Alike [] [] Cached.Twin)
      (Layered.features { cached := true, notifying := true } call)
      (Layered.features { cached := false, notifying := true } call) := by
  have same : Handler.AgreeOn (fun _ => True) Cached.Twin
      (Caching.features (Repository.features Backend.handle))
      (Bypassing.handle (Repository.features Backend.handle)) :=
    fun call _ => Caching.features_twin call
  exact Notifying.features_agree same (fun _ _ => trivial) (fun _ _ _ => trivial) trivial

theorem properties_agree (call : PropertyCall) :
    Agree (Notified.Alike [] [] Cached.Twin)
      (Layered.properties { cached := true, notifying := true } call)
      (Layered.properties { cached := false, notifying := true } call) := by
  have same : Handler.AgreeOn (fun _ => True) Cached.Twin
      (Caching.properties (Repository.properties Backend.handle))
      (Bypassing.handle (Repository.properties Backend.handle)) :=
    fun call _ => Caching.properties_twin call
  exact Notifying.properties_agree same (fun _ _ => trivial) (fun _ _ _ => trivial) trivial

/-- An action on the repositories of features of twins. -/
theorem onFeatureRepository_agree
    {action action' : FeatureHandler (Layered Feature FeatureNotice) →
      Act (Layered Feature FeatureNotice) α}
    (agree : Agree (Notified.Alike [] [] Cached.Twin)
      (action (Layered.features { cached := true, notifying := true }))
      (action' (Layered.features { cached := false, notifying := true }))) :
    Agree Twin (onFeatureRepository action) (onFeatureRepository action') := by
  refine Agree.get_bind fun decorated plain twin => ?_
  dsimp only
  rw [twin.features.layers, twin.features.plainLayers]
  exact onFeatures_agree (Collection.onLayered_agree agree)

/-- Refreshes the properties if they have a refresher. -/
def refreshProperties : Act Board Unit := do
  if (← get).properties.refresher.isSome then
    let _ ← onProperties Collection.refresh

theorem refreshProperties_of_online (moment : Moment) {board : Board}
    (online : board.properties.layered.backend.online = true) :
    (refreshProperties.perform moment board).1 = .ok () ∧
      Idle board (refreshProperties.perform moment board).2 := by
  unfold refreshProperties
  rw [perform_bind, perform_get]
  dsimp only
  split
  · have refreshed : ((onProperties Collection.refresh).perform moment board).1 = .ok _ :=
      Collection.refresh_of_online online
    rw [perform_bind_ok refreshed]
    exact ⟨rfl, idle_onProperties Collection.unnoticed_refresh moment board⟩
  · exact ⟨rfl, Idle.refl board⟩

/-- A refresh of the caches succeeds on a board with online stores, and goes unnoticed. -/
theorem refreshCaches_of_online (moment : Moment) {board : Board}
    (online : board.features.layered.backend.online = true)
    (online' : board.properties.layered.backend.online = true) :
    (refreshCaches.perform moment board).1 = .ok () ∧
      Idle board (refreshCaches.perform moment board).2 := by
  have halves : refreshCaches = (do
      if (← get).features.refresher.isSome then
        let _ ← onFeatures Collection.refresh
      refreshProperties) := rfl
  rw [halves, perform_bind, perform_get]
  dsimp only
  split
  · have refreshed : ((onFeatures Collection.refresh).perform moment board).1 = .ok _ :=
      Collection.refresh_of_online online
    have idle := idle_onFeatures Collection.unnoticed_refresh moment board
    have kept : ((onFeatures Collection.refresh).perform moment
      board).2.properties.layered.backend.online = true := online'
    rw [perform_bind_ok refreshed]
    obtain ⟨succeeds, later⟩ := refreshProperties_of_online moment kept
    exact ⟨succeeds, idle.trans later⟩
  · exact refreshProperties_of_online moment online'

theorem refreshCaches_agree : Agree Twin refreshCaches refreshCaches := by
  intro moment decorated plain twin
  have features := twin.features.layered.2
  have properties := twin.properties.layered.2
  obtain ⟨left, idle⟩ := refreshCaches_of_online moment features.online properties.online
  obtain ⟨right, idle'⟩ :=
    refreshCaches_of_online moment features.plainOnline properties.plainOnline
  exact ⟨left.trans right.symm, twin.idle idle idle'⟩

/-- **Twins answer every operation alike**, unless it passes the layers or concerns only what happens in
the background. -/
theorem handle_agree {operation : Operation} (through : operation.Through)
    (answered : ¬operation.Control) : Agree Twin (handle operation) (handle operation) := by
  cases operation with
  | features call => exact onFeatures_agree (Collection.handle_agree features_agree through answered)
  | properties call =>
    exact onProperties_agree (Collection.handle_agree properties_agree through answered)
  | evaluate id context override =>
    refine Agree.get_bind fun decorated plain twin => ?_
    refine onFeatureRepository_agree ?_
    rw [twin.evaluator, twin.defaults]
    exact Evaluator.evaluate_agree features_agree plain.evaluator id _ override
  | checkAll context =>
    refine Agree.get_bind fun decorated plain twin => ?_
    refine onFeatureRepository_agree ?_
    rw [twin.evaluator, twin.defaults]
    exact Evaluator.checkAll_agree features_agree plain.evaluator _
  | secured principal call =>
    refine onFeatureRepository_agree ?_
    have same : Handler.AgreeOn (fun _ => True) (Notified.Alike [] [] Cached.Twin)
        (Layered.features { cached := true, notifying := true })
        (Layered.features { cached := false, notifying := true }) := fun call _ => features_agree call
    exact Secured.handle_agree same (fun _ => trivial) (fun _ _ => trivial) (fun _ => trivial)
      (fun _ => trivial) principal call
  | prepare =>
    have first : Agree Twin (onFeatures (featureCalls (.call (.store .prepare))))
        (onFeatures (featureCalls (.call (.store .prepare)))) := by
      refine onFeatures_agree (Collection.handle_agree features_agree ?_ ?_)
      · trivial
      · exact fun control => control
    refine first.bind fun _ => onProperties_agree (Collection.handle_agree properties_agree ?_ ?_)
    · trivial
    · exact fun control => control
  | setDefaults context =>
    exact Agree.modify fun decorated plain twin => { twin with defaults := rfl }
  | refreshCaches => exact refreshCaches_agree
  | resetUsage =>
    refine Agree.modify fun decorated plain twin => { twin with desk := ?_ }
    dsimp only
    rw [twin.desk]

/-- What only concerns the background goes unnoticed. -/
theorem idle_control {operation : Operation} (control : operation.Control) (moment : Moment)
    (board : Board) : Idle board ((handle operation).perform moment board).2 := by
  cases operation with
  | features call => exact idle_onFeatures (Collection.unnoticed_control control) moment board
  | properties call => exact idle_onProperties (Collection.unnoticed_control control) moment board
  | evaluate id context override => exact control.elim
  | checkAll context => exact control.elim
  | secured principal call => exact control.elim
  | prepare => exact control.elim
  | setDefaults context => exact control.elim
  | refreshCaches => exact control.elim
  | resetUsage => exact control.elim

end Board

end Switchboard

/-
**Listeners are isolated.**

* `Audience.any`, `Audience.upToExits` — listeners and desks of any kind are an audience, and so are those that differ
  only in whether listeners succeed, fail or panic.
* `Board.SameContents` — two boards that have everything in common but their listeners and desks;
  `Board.SameUpToExits` — two boards that differ only in whether listeners succeed, fail or panic.
* `Blueprint.SameButListeners`, `Blueprint.SameButExits` — two blueprints that differ only in their listeners and in how
  these are served, or only in whether listeners succeed, fail or panic.
* `Blueprint.listeners_are_isolated` — listeners cannot be told from the contents of a board or from its answers, and
  whether they succeed, fail or panic cannot be told from what other listeners see either.
-/

import Switchboard.Proofs.Board.Audience
import Switchboard.Proofs.Delivery.Leveled

namespace Switchboard

/-! ### Audiences -/

/-- Listeners and desks of any kind. -/
theorem Audience.any : Audience (fun _ _ => True) fun _ _ => True :=
  ⟨fun _ _ _ => trivial, fun _ _ => trivial, fun _ _ _ => trivial, fun _ _ => trivial,
    fun _ _ _ _ => trivial, fun _ => trivial⟩

/-- **Listeners and desks that differ only in whether listeners succeed, fail or panic.** -/
theorem Audience.upToExits : Audience Listeners.SameUpToExits Desk.SameUpToExits where
  insert name listener same := same.insert name listener
  erase name same := same.erase name
  announce notice heard same := same.announce heard notice
  run moment same := same.run moment
  advance wall now target same := same.advance wall now target
  resetUsage same := same.resetUsage

/-! ### Boards -/

namespace Board

variable {left right : Board} {wall : Nat → Time.Instant} {now : Nat}

/-- Two boards that have everything in common but their listeners and desks: stores, caches with their statistics,
refreshers and sweepers, and how features are checked. -/
def SameContents (left right : Board) : Prop := Alike (fun _ _ => True) (fun _ _ => True) left right

/-- Two boards that differ only in whether listeners succeed, fail or panic. -/
def SameUpToExits (left right : Board) : Prop :=
  Alike Listeners.SameUpToExits Desk.SameUpToExits left right

/-- An operation tells the same of the listeners of such boards. -/
theorem SameUpToExits.tells (same : SameUpToExits left right) (operation : Operation) :
    left.tells operation = right.tells operation := by
  cases operation with
  | features call => exact congrArg (call.listener?.map ·) same.features.listeners.contains
  | properties call => exact congrArg (call.listener?.map ·) same.properties.listeners.contains
  | evaluate | checkAll | secured | prepare | setDefaults | refreshCaches | resetUsage => rfl

/-- **Such boards have the same deliveries accepted and dropped.** -/
theorem SameUpToExits.notifications (same : SameUpToExits left right) :
    left.notifications.map Notification.outline = right.notifications.map Notification.outline := by
  unfold Board.notifications
  rw [same.features.layered, same.properties.layered, List.map_append, List.map_append,
    same.desk.outlines same.features.listeners]
  refine congrArg _ (Desk.SameUpToExits.outlines ?_ same.properties.listeners _)
  exact Audience.upToExits.announceAll same.features.listeners _ same.desk

theorem SameUpToExits.notificationsDuring
    (same : SameUpToExits left right) {steps : List BoardStep} (going : ∀ next ∈ steps, ¬next.Ends) :
    (notificationsDuring wall (now, left) steps).map Notification.outline =
      (notificationsDuring wall (now, right) steps).map Notification.outline := by
  induction steps generalizing now left right with
  | nil => rfl
  | cons next rest ih =>
    obtain ⟨clock, after⟩ : (left.step wall now next).1 = (right.step wall now next).1 ∧ _ :=
      step_alike Audience.upToExits same (going next List.mem_cons_self)
    unfold Board.notificationsDuring
    rw [List.map_append, List.map_append, clock]
    refine congrArg₂ (· ++ ·) ?_ (ih after fun later listed => going later (List.mem_cons_of_mem _ listed))
    cases next with
    | operation asked =>
      obtain ⟨_, performed⟩ := handle_alike Audience.upToExits asked ⟨now, wall now⟩ same
      exact SameUpToExits.notifications performed
    | settle | advance | drain | shutDown => rfl

end Board

/-! ### Blueprints -/

namespace Blueprint

/-- Two blueprints that differ only in their listeners, of which the audit listener is one, and in the number of workers,
the capacity of the queue and the time that a listener may take. -/
structure SameButListeners (left right : Blueprint) : Prop where
  cache : left.settings.cache = right.settings.cache
  refresh : left.settings.refresh = right.settings.refresh
  autoCreate : left.settings.evaluator.autoCreate = right.settings.evaluator.autoCreate
  features : left.features = right.features
  properties : left.properties = right.properties
  featureTies : left.featureTies = right.featureTies
  propertyTies : left.propertyTies = right.propertyTies
  strategies : left.strategies = right.strategies
  defaults : left.defaults = right.defaults

/-- Two blueprints that differ only in whether listeners succeed, fail or panic. -/
structure SameButExits (left right : Blueprint) : Prop extends SameButListeners left right where
  notifier : left.settings.notifier = right.settings.notifier
  auditors : left.auditors = right.auditors
  featureListeners : left.featureListeners.map (Prod.map id Listener.leveled) =
    right.featureListeners.map (Prod.map id Listener.leveled)
  propertyListeners : left.propertyListeners.map (Prod.map id Listener.leveled) =
    right.propertyListeners.map (Prod.map id Listener.leveled)

section Build

variable {left right : Blueprint} {heard : Listeners → Listeners → Prop} {desks : Desk → Desk → Prop}

theorem collection_alike {E N : Type} {settings settings' : Settings} {store store' : Store E}
    {ties ties' : Nat → Nat} (cache : settings.cache = settings'.cache)
    (refresh : settings.refresh = settings'.refresh) (stored : store = store') (chosen : ties = ties')
    {listeners listeners' : Listeners} (listening : heard listeners listeners') :
    Collection.Alike (N := N) heard (collection settings store ties listeners)
      (collection settings' store' ties' listeners') := by
  refine ⟨?_, ?_, ?_, ?_, listening⟩ <;> unfold collection <;> dsimp only
  · rw [cache]
  · rw [cache, stored, chosen]
  · rw [cache, refresh]
  · rw [cache]

theorem build_alike (same : SameButListeners left right)
    (features : heard left.board.features.listeners right.board.features.listeners)
    (properties : heard left.board.properties.listeners right.board.properties.listeners)
    (desk : desks left.board.desk right.board.desk) (moment : Moment) :
    Board.Alike heard desks (left.build moment) (right.build moment) :=
  Board.startAll_alike moment
    { features := collection_alike same.cache same.refresh same.features same.featureTies features
      properties := collection_alike same.cache same.refresh same.properties same.propertyTies properties
      desk := desk
      evaluator := congrArg₂ (Evaluator.mk · · true) same.strategies same.autoCreate
      defaults := same.defaults
      isClosed := rfl }

theorem leveled_register (listeners : List (String × Listener)) :
    Listeners.leveled (register listeners) =
      register (listeners.map (Prod.map id Listener.leveled)) := by
  have empty : Listeners.leveled ∅ = ∅ := Std.ExtTreeMap.ext_getElem? fun name => by
    unfold Listeners.leveled
    rw [Std.ExtTreeMap.getElem?_map, Std.ExtTreeMap.getElem?_empty]
    rfl
  unfold register
  rw [List.foldl_map]
  conv_rhs => rw [← empty]
  refine (List.foldl_hom Listeners.leveled fun table entry => ?_).symm
  exact (Listeners.leveled_insert table entry.1 entry.2).symm

/-- **The boards of blueprints that differ only in exits start so.** -/
theorem build_same_up_to_exits (same : SameButExits left right) (moment : Moment) :
    (left.build moment).SameUpToExits (right.build moment) := by
  refine build_alike same.toSameButListeners ?_ ?_ ?_ moment
  · show Listeners.leveled (register _) = Listeners.leveled (register _)
    rw [leveled_register, leveled_register, List.map_append, List.map_append, same.auditors,
      same.featureListeners]
  · show Listeners.leveled (register _) = Listeners.leveled (register _)
    rw [leveled_register, leveled_register, List.map_append, List.map_append, same.auditors,
      same.propertyListeners]
  · exact congrArg (fun notifier => Desk.leveled { dispatcher := dispatcher notifier }) same.notifier

end Build

/-- **Listeners are isolated.** The boards of two blueprints that differ only in their listeners and in how these are
served go through the same steps, in which the deliveries do not end. (1) They have the same contents then, and answer
every operation alike, unless it tells of a listener that only one of them has. (2) If the blueprints differ only in
whether listeners succeed, fail or panic, at once or after a time, the boards answer every operation alike, their
dispatchers have accepted and dropped the same deliveries, and the listeners were told the same and left the same
behind. -/
theorem listeners_are_isolated {left right : Blueprint} (same : SameButListeners left right)
    (wall : Nat → Time.Instant) (now : Nat) {steps : List BoardStep}
    (going : ∀ next ∈ steps, ¬next.Ends) :
    let start := (now, left.build ⟨now, wall now⟩)
    let start' := (now, right.build ⟨now, wall now⟩)
    let reached := Board.runSteps wall start steps
    let reached' := Board.runSteps wall start' steps
    let moment : Moment := ⟨reached.1, wall reached.1⟩
    reached.1 = reached'.1 ∧ reached.2.SameContents reached'.2 ∧
      (∀ operation, reached.2.tells operation = reached'.2.tells operation →
        (reached.2.perform moment operation).1 = (reached'.2.perform moment operation).1) ∧
      (SameButExits left right →
        (∀ operation, (reached.2.perform moment operation).1 = (reached'.2.perform moment operation).1) ∧
        (Board.notificationsDuring wall start steps).map Notification.outline =
          (Board.notificationsDuring wall start' steps).map Notification.outline ∧
        reached.2.desk.SameRecords reached'.2.desk) := by
  intro start start' reached reached' moment
  obtain ⟨clock, after⟩ : reached.1 = reached'.1 ∧ _ := Board.runSteps_alike Audience.any
    (build_alike same trivial trivial trivial ⟨now, wall now⟩) going
  refine ⟨clock, after, fun operation told => ?_, fun nearly => ?_⟩
  · exact (Board.handle_alike Audience.any operation moment after).1 told
  · have begun := build_same_up_to_exits nearly ⟨now, wall now⟩
    obtain ⟨_, after⟩ : reached.1 = reached'.1 ∧ _ :=
      Board.runSteps_alike Audience.upToExits begun going
    refine ⟨fun operation => ?_, ?_, after.desk.records⟩
    · have told : reached.2.tells operation = reached'.2.tells operation :=
        Board.SameUpToExits.tells after operation
      exact (Board.handle_alike Audience.upToExits operation moment after).1 told
    · exact Board.SameUpToExits.notificationsDuring begun going

/-- A lamp is switched on and checked while two listeners are told: one succeeds, panics at once or fails after a
while, and the other one hangs. -/
theorem listeners_are_isolated_from_lamp :
    let watched (ending : Ending) (notifier : NotifierSettings) : Blueprint :=
      { settings :=
          { cache := ⟨true, 10, 1, 3⟩, refresh := ⟨true, 1, 2⟩, notifier
            evaluator := ⟨true, true⟩, logging := ⟨"info", false⟩ }
        features := Store.empty.insert (Feature.new "lamp" .epoch)
        featureListeners := [("a", .recorder ending), ("b", .recorder .never)] }
    let wall : Nat → Time.Instant := fun _ => .epoch
    let steps : List BoardStep :=
      [.operation (.features (.call (.setEnabled "lamp" true))), .advance 7,
        .operation (.evaluate "lamp" .empty none), .settle]
    let calm := watched (.atOnce .succeeds) ⟨1, 3, 100⟩
    let wild := watched (.atOnce .panics) ⟨1, 3, 100⟩
    let slow := watched (.after 5 .fails) ⟨2, 8, 20⟩
    let reached (blueprint : Blueprint) := Board.runSteps wall (0, blueprint.build ⟨0, wall 0⟩) steps
    SameButListeners calm slow ∧ SameButExits calm wild ∧ (∀ next ∈ steps, ¬next.Ends) ∧
      (reached calm).2.SameContents (reached slow).2 ∧
      (reached calm).2.desk.SameRecords (reached wild).2.desk ∧
      (reached wild).2.desk.dispatcher.stats.failed = 1 ∧
      (reached wild).2.desk.dispatcher.stats.dropped = 2 := by
  intro watched wall steps calm wild slow reached
  have differ : SameButListeners calm slow := ⟨rfl, rfl, rfl, rfl, rfl, rfl, rfl, rfl, rfl⟩
  have nearly : SameButExits calm wild := ⟨⟨rfl, rfl, rfl, rfl, rfl, rfl, rfl, rfl, rfl⟩, rfl, rfl, rfl, rfl⟩
  have going : ∀ next ∈ steps, ¬next.Ends := by
    intro next listed
    simp only [steps, List.mem_cons, List.not_mem_nil, or_false] at listed
    rcases listed with rfl | rfl | rfl | rfl <;> exact fun ends => ends
  obtain ⟨_, contents, _⟩ := listeners_are_isolated differ wall 0 going
  obtain ⟨_, _, _, records⟩ := listeners_are_isolated nearly.toSameButListeners wall 0 going
  refine ⟨differ, nearly, going, contents, (records nearly).2.2, ?_, ?_⟩
  · decide +kernel
  · decide +kernel

end Blueprint

end Switchboard

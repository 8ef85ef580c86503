/-
**Listeners that end at the same time, seen as one.**

* `Listener.leveled`, `Listeners.leveled` — the listeners, which succeed if they end by themselves.
* `Desk.leveled` — a desk with leveled deliveries, on which completed and failed deliveries are counted together. It
  takes notices and moves on as the desk itself does (`Desk.leveled_announce`, `Desk.leveled_run`).
* `Desk.notifyAll_leveled` — it answers every delivery alike.
* `Desk.SameUpToExits` — two desks have the same leveled form; `Desk.SameRecords` — what is seen of such desks.
-/

import Switchboard.Proofs.Delivery.Account
import Switchboard.Proofs.Table

namespace Switchboard

/-! ### Listeners -/

/-- The listener, which succeeds if it ends by itself. -/
def Listener.leveled : Listener → Listener
  | recorder ending => recorder ending.leveled
  | quiet => quiet
  | usage => usage
  | audit auditor => audit auditor

theorem Listener.ending_leveled (listener : Listener) :
    listener.leveled.ending = listener.ending.leveled := by
  cases listener with
  | recorder ending => rfl
  | quiet | usage | audit auditor => rfl

/-- The delivery to the leveled listener. -/
def Delivery.leveled (delivery : Delivery) : Delivery :=
  { delivery with listener := delivery.listener.leveled }

namespace Listeners

/-- The leveled listeners under their names. -/
def leveled (listeners : Listeners) : Listeners := listeners.map fun _ listener => listener.leveled

theorem leveled_insert (listeners : Listeners) (name : String) (listener : Listener) :
    leveled (listeners.insert name listener) = (leveled listeners).insert name listener.leveled := by
  refine Std.ExtTreeMap.ext_getElem? fun key => ?_
  unfold leveled
  rw [Std.ExtTreeMap.getElem?_map, Table.getElem?_insert_eq, Table.getElem?_insert_eq,
    Std.ExtTreeMap.getElem?_map]
  split <;> rfl

theorem leveled_erase (listeners : Listeners) (name : String) :
    leveled (listeners.erase name) = (leveled listeners).erase name := by
  refine Std.ExtTreeMap.ext_getElem? fun key => ?_
  unfold leveled
  rw [Std.ExtTreeMap.getElem?_map, Table.getElem?_erase_eq, Table.getElem?_erase_eq,
    Std.ExtTreeMap.getElem?_map]
  split <;> rfl

/-- The leveled listeners have the same names. -/
theorem contains_leveled (listeners : Listeners) (name : String) :
    (leveled listeners).contains name = listeners.contains name := Std.ExtTreeMap.contains_map

theorem jobs_leveled (listeners : Listeners) (notice : Notice) :
    Desk.jobs listeners.leveled notice =
      (Desk.jobs listeners notice).map (Job.leveled Delivery.leveled) := by
  unfold Desk.jobs leveled
  rw [Std.ExtTreeMap.toList_map, List.map_map, List.map_map]
  refine List.map_congr_left fun entry _ => ?_
  exact congrArg (Job.mk _) entry.2.ending_leveled

/-- Listeners that differ only in whether they succeed, fail or panic. -/
def SameUpToExits (left right : Listeners) : Prop := left.leveled = right.leveled

namespace SameUpToExits

variable {left right : Listeners}

theorem insert (same : SameUpToExits left right) (name : String) (listener : Listener) :
    SameUpToExits (left.insert name listener) (right.insert name listener) := by
  unfold SameUpToExits
  rw [leveled_insert, leveled_insert, same]

theorem erase (same : SameUpToExits left right) (name : String) :
    SameUpToExits (left.erase name) (right.erase name) := by
  unfold SameUpToExits
  rw [leveled_erase, leveled_erase, same]

/-- Such listeners have the same names. -/
theorem contains (same : SameUpToExits left right) : left.contains = right.contains := by
  funext name
  rw [← contains_leveled, same, contains_leveled]

end SameUpToExits

end Listeners

/-! ### Journals -/

namespace Journal

/-- The journal of leveled deliveries. -/
def leveled (journal : Journal) : Journal := { journal with begun := journal.begun.map Delivery.leveled }

/-- **A leveled listener leaves the same behind.** -/
theorem leveled_begin (journal : Journal) (now : Time.Instant) (delivery : Delivery) :
    (journal.begin now delivery).leveled = journal.leveled.begin now delivery.leveled := by
  obtain ⟨name, listener, notice⟩ := delivery
  cases listener with
  | recorder ending => rfl
  | quiet => rfl
  | usage => cases notice <;> rfl
  | audit auditor => rfl

theorem leveled_record (now : Time.Instant) (journal : Journal) (occurrence : Occurrence Delivery) :
    (journal.record now occurrence).leveled =
      journal.leveled.record now (occurrence.map Delivery.leveled) := by
  cases occurrence with
  | finished delivery => rfl
  | began delivery =>
    have entered : leveled { journal with begun := journal.begun ++ [delivery] } =
        { journal.leveled with begun := journal.leveled.begun ++ [delivery.leveled] } :=
      congrArg (Journal.mk · journal.lines journal.usage journal.events) List.map_append
    exact (leveled_begin _ now delivery).trans (congrArg (begin · now delivery.leveled) entered)

/-- A listener is told the same. -/
theorem toldTo_leveled (name : String) (journal : Journal) :
    journal.leveled.toldTo name = journal.toldTo name := by
  unfold toldTo leveled
  dsimp only
  rw [List.filter_map, List.map_map]
  rfl

end Journal

/-! ### Notifications -/

theorem Dispatcher.free_leveled {P Q : Type} (relabel : P → Q) (earlier : List (Occurrence Q))
    (dispatcher : Dispatcher P) : (dispatcher.leveled relabel earlier).free = dispatcher.free := by
  unfold free leveled
  dsimp only
  rw [List.length_map]

theorem Dispatcher.answers_leveled {P Q : Type} (relabel : P → Q) (earlier : List (Occurrence Q))
    (dispatcher : Dispatcher P) (jobs : List (Job P)) :
    (dispatcher.leveled relabel earlier).answers (jobs.map (Job.leveled relabel)) =
      (dispatcher.answers jobs).map (Prod.map relabel id) := by
  unfold answers
  rw [offerAll_leveled, ← List.zip_map_left, List.map_map, List.map_map]
  rfl

namespace Notification

/-- The notification of leveled listeners. -/
def leveled (notification : Notification) : Notification where
  notice := notification.notice
  listeners := notification.listeners.leveled
  free := notification.free
  answers := notification.answers.map (Prod.map Delivery.leveled id)

/-- The notice, and the name of every listener with the answer of the dispatcher. -/
def outline (notification : Notification) : Notice × List (String × Bool) :=
  (notification.notice, notification.answers.map (Prod.map Delivery.name id))

theorem outline_leveled (notification : Notification) :
    notification.leveled.outline = notification.outline := by
  unfold outline leveled
  dsimp only
  rw [List.map_map]
  rfl

end Notification

/-! ### Desks -/

namespace Desk

/-- The desk with leveled deliveries. -/
def leveled (desk : Desk) : Desk where
  dispatcher := desk.dispatcher.leveled Delivery.leveled []
  journal := desk.journal.leveled

theorem leveled_announce (listeners : Listeners) (desk : Desk) (notice : Notice) :
    (desk.announce listeners notice).leveled = desk.leveled.announce listeners.leveled notice := by
  unfold announce leveled
  rw [Listeners.jobs_leveled, Dispatcher.offerAll_leveled]

theorem leveled_collect (desk : Desk) (now : Time.Instant) :
    (desk.collect now).leveled = desk.leveled.collect now := by
  have entered : ∀ (occurrences : List (Occurrence Delivery)) (journal : Journal),
      (occurrences.foldl (Journal.record now) journal).leveled =
        (occurrences.map (Occurrence.map Delivery.leveled)).foldl (Journal.record now)
          journal.leveled := by
    intro occurrences
    induction occurrences with
    | nil => exact fun _ => rfl
    | cons occurrence rest ih =>
      intro journal
      rw [List.foldl_cons, ih, Journal.leveled_record]
      rfl
  exact congrArg (Desk.mk _) (entered _ _)

/-- **A desk moves on as its leveled form does.** -/
theorem leveled_run (moment : Moment) (desk : Desk) : (desk.run moment).leveled = desk.leveled.run moment := by
  unfold run
  rw [leveled_collect]
  exact congrArg (fun dispatcher => collect ⟨dispatcher, desk.journal.leveled⟩ moment.wall)
    (desk.dispatcher.leveled_run moment.clock)

theorem due?_leveled (desk : Desk) : desk.leveled.due? = desk.due? := desk.dispatcher.due?_leveled

/-- **A leveled desk answers every delivery alike.** -/
theorem notify_leveled (listeners : Listeners) (desk : Desk) (notice : Notice) :
    desk.leveled.notify listeners.leveled notice = (desk.notify listeners notice).leveled := by
  unfold notify Notification.leveled
  dsimp only
  rw [Listeners.jobs_leveled]
  congr 1
  · exact Dispatcher.free_leveled _ _ _
  · exact Dispatcher.answers_leveled _ _ _ _

theorem notifyAll_leveled (listeners : Listeners) (desk : Desk) (notices : List Notice) :
    desk.leveled.notifyAll listeners.leveled notices =
      (desk.notifyAll listeners notices).map Notification.leveled := by
  induction notices generalizing desk with
  | nil => rfl
  | cons notice rest ih =>
    unfold notifyAll
    rw [← leveled_announce, ih, notify_leveled]
    rfl

/-! ### Records -/

/-- What is seen of two desks that differ only in whether deliveries succeed, fail or panic: every listener was told
the same and left the same behind, and the counters are the same, completed and failed deliveries being counted
together. -/
structure SameRecords (left right : Desk) : Prop where
  told : ∀ name, left.journal.toldTo name = right.journal.toldTo name
  lines : left.journal.lines = right.journal.lines
  usage : left.journal.usage = right.journal.usage
  events : left.journal.events = right.journal.events
  dispatched : left.dispatcher.stats.dispatched = right.dispatcher.stats.dispatched
  dropped : left.dispatcher.stats.dropped = right.dispatcher.stats.dropped
  timedOut : left.dispatcher.stats.timedOut = right.dispatcher.stats.timedOut
  ended : left.dispatcher.stats.completed + left.dispatcher.stats.failed =
    right.dispatcher.stats.completed + right.dispatcher.stats.failed

/-- Desks that differ only in whether deliveries succeed, fail or panic. -/
def SameUpToExits (left right : Desk) : Prop := left.leveled = right.leveled

namespace SameUpToExits

variable {left right : Desk}

theorem announce (same : SameUpToExits left right) {listeners listeners' : Listeners}
    (heard : listeners.SameUpToExits listeners') (notice : Notice) :
    SameUpToExits (left.announce listeners notice) (right.announce listeners' notice) := by
  unfold SameUpToExits
  rw [leveled_announce, leveled_announce, heard, same]

theorem run (same : SameUpToExits left right) (moment : Moment) :
    SameUpToExits (left.run moment) (right.run moment) := by
  unfold SameUpToExits
  rw [leveled_run, leveled_run, same]

/-- **Such desks move on alike.** -/
theorem advance (same : SameUpToExits left right) (wall : Nat → Time.Instant) (now target : Nat) :
    SameUpToExits (Timed.advance wall now target left) (Timed.advance wall now target right) := by
  refine Timed.advance_alike SameUpToExits ?_ (fun moment _ _ same => same.run moment) same
  intro left right same
  exact left.due?_leveled.symm.trans ((congrArg Desk.due? same).trans right.due?_leveled)

theorem resetUsage (same : SameUpToExits left right) :
    SameUpToExits { left with journal := { left.journal with usage := Usage.reset } }
      { right with journal := { right.journal with usage := Usage.reset } } := by
  have reset := congrArg (fun desk : Desk =>
    { desk with journal := { desk.journal with usage := Usage.reset } }) same
  exact reset

/-- **Such desks accept and drop the same deliveries.** -/
theorem outlines (same : SameUpToExits left right) {listeners listeners' : Listeners}
    (heard : listeners.SameUpToExits listeners') (notices : List Notice) :
    (left.notifyAll listeners notices).map Notification.outline =
      (right.notifyAll listeners' notices).map Notification.outline := by
  have blind : ∀ notifications : List Notification,
      (notifications.map Notification.leveled).map Notification.outline =
        notifications.map Notification.outline := by
    intro notifications
    rw [List.map_map]
    exact List.map_congr_left fun notification _ => notification.outline_leveled
  rw [← blind, ← notifyAll_leveled, heard, same, notifyAll_leveled, blind]

theorem records (same : SameUpToExits left right) : SameRecords left right := by
  have journal : left.journal.leveled = right.journal.leveled := congrArg Desk.journal same
  have stats : left.dispatcher.stats.leveled = right.dispatcher.stats.leveled :=
    congrArg (fun desk : Desk => desk.dispatcher.stats) same
  refine ⟨fun name => ?_, ?_, ?_, ?_, ?_, ?_, ?_, ?_⟩
  · rw [← Journal.toldTo_leveled, journal, Journal.toldTo_leveled]
  · exact (congrArg Journal.lines journal :)
  · exact (congrArg Journal.usage journal :)
  · exact (congrArg Journal.events journal :)
  · exact (congrArg DispatchStats.dispatched stats :)
  · exact (congrArg DispatchStats.dropped stats :)
  · exact (congrArg DispatchStats.timedOut stats :)
  · exact (congrArg DispatchStats.completed stats :)

end SameUpToExits

end Desk

end Switchboard

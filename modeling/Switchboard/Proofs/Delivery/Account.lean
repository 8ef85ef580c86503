/-
**The account of a desk.**

* `Notification` — a notice on its way: the listeners, the free slots of the queue, and the answer of the dispatcher for
  each delivery. `Desk.notify`, `Desk.notifyAll` — the notifications that a desk makes of notices.
* `Notification.Fair` — listeners come in the order of their names, and those are dropped for which no slot was left.
  Every notification is fair (`Desk.fair_notifyAll`).
* `Desk.account` — the deliveries that began and those that wait. Workers never change it (`Desk.works_run`); a
  notice adds what was accepted (`Desk.account_announceAll`).
* `Desk.load_drained` — nothing is left of a desk that was closed when the time comes that is computed for it.
-/

import Switchboard.Proofs.Delivery.Quiet
import Switchboard.Proofs.Notices.Reported
import Switchboard.Proofs.Schedule.Leveled

namespace Switchboard

/-! ### Offers and answers -/

namespace Dispatcher

variable {P : Type}

/-- The payloads of jobs that are offered, each with the answer of the dispatcher. -/
def answers (dispatcher : Dispatcher P) (jobs : List (Job P)) : List (P × Bool) :=
  (jobs.map Job.payload).zip (dispatcher.offerAll jobs).1

/-- **The first jobs are accepted, as many as slots are free, and the others are not.** -/
theorem answers_eq (dispatcher : Dispatcher P) (jobs : List (Job P)) :
    dispatcher.answers jobs =
      (jobs.take dispatcher.free).map (fun job => (job.payload, true)) ++
        (jobs.drop dispatcher.free).map fun job => (job.payload, false) := by
  induction jobs generalizing dispatcher with
  | nil => rw [List.take_nil, List.drop_nil]; rfl
  | cons job rest ih =>
    have head : dispatcher.answers (job :: rest) =
        (job.payload, (dispatcher.offer job).1) :: (dispatcher.offer job).2.answers rest := rfl
    rw [head, ih]
    by_cases room : 0 < dispatcher.free
    · obtain ⟨isOpen, less⟩ := free_pos.mp room
      have taken : dispatcher.offer job = (true, dispatcher.enqueue [job] []) :=
        offer_of_free job isOpen less
      obtain ⟨others, one⟩ := Nat.exists_eq_succ_of_ne_zero (Nat.ne_of_gt room)
      rw [taken, free_enqueue, one]
      rfl
    · have dropped : dispatcher.offer job = (false, dispatcher.enqueue [] [job]) := by
        rw [offer_of_not_free job (free_pos.not.mp room)]
        unfold enqueue
        rw [List.append_nil]
        rfl
      have none : dispatcher.free = 0 := Nat.eq_zero_of_not_pos room
      rw [dropped, free_enqueue, none]
      rfl

/-- Of answers that are all the same, all or none are selected. -/
theorem filter_answered (answer : Bool) (selects : Bool → Bool) (jobs : List (Job P)) :
    ((jobs.map fun job => (job.payload, answer)).filter fun marked => selects marked.2).map Prod.fst =
      if selects answer then jobs.map Job.payload else [] := by
  rw [List.filter_map]
  show ((jobs.filter fun _ => selects answer).map fun job => (job.payload, answer)).map Prod.fst = _
  rw [List.map_map]
  cases selects answer with
  | true => exact congrArg (List.map Job.payload) (List.filter_eq_self.mpr fun _ _ => rfl)
  | false => exact congrArg (List.map Job.payload) (List.filter_eq_nil_iff.mpr fun _ _ => Bool.false_ne_true)

/-- The deliveries with one answer. -/
theorem filter_answers (dispatcher : Dispatcher P) (jobs : List (Job P)) (selects : Bool → Bool) :
    ((dispatcher.answers jobs).filter fun marked => selects marked.2).map Prod.fst =
      (if selects true then (jobs.take dispatcher.free).map Job.payload else []) ++
        if selects false then (jobs.drop dispatcher.free).map Job.payload else [] := by
  rw [answers_eq, List.filter_append, List.map_append, filter_answered, filter_answered]

end Dispatcher

/-! ### Notifications -/

/-- A notice on its way to its listeners, with the number of slots of the queue that were free for it, and each delivery
with the answer of the dispatcher. -/
structure Notification where
  notice : Notice
  listeners : Listeners
  free : Nat
  answers : List (Delivery × Bool)

namespace Notification

/-- The deliveries to all listeners. -/
def deliveries (notification : Notification) : List Delivery := notification.answers.map Prod.fst

/-- The deliveries that the dispatcher accepted. -/
def accepted (notification : Notification) : List Delivery :=
  (notification.answers.filter fun answer => answer.2).map Prod.fst

/-- The deliveries that the dispatcher dropped. -/
def dropped (notification : Notification) : List Delivery :=
  (notification.answers.filter fun answer => !answer.2).map Prod.fst

/-- The notice goes to every listener, in the order of their names; the first deliveries are accepted, as many as there
were free slots, and those are dropped for which no slot was left. -/
structure Fair (notification : Notification) : Prop where
  deliveries : notification.deliveries =
    notification.listeners.toList.map fun (name, listener) => ⟨name, listener, notification.notice⟩
  order : (notification.deliveries.map Delivery.name).Pairwise fun name other => compare name other = .lt
  accepted : notification.accepted = notification.deliveries.take notification.free
  dropped : notification.dropped = notification.deliveries.drop notification.free

end Notification

/-! ### What listeners are told -/

/-- The notices that a listener was told. -/
def Journal.toldTo (name : String) (journal : Journal) : List Notice :=
  (journal.begun.filter fun delivery => delivery.name == name).map Delivery.notice

namespace Notification

/-- A delivery to a listener with a name was accepted. -/
def Reaches (name : String) (notification : Notification) : Prop :=
  name ∈ notification.accepted.map Delivery.name

instance (name : String) : DecidablePred (Reaches name) := fun notification =>
  inferInstanceAs (Decidable (name ∈ notification.accepted.map Delivery.name))

/-- Deliveries of one notice to listeners with different names. -/
theorem notices_of_name {deliveries : List Delivery} (distinct : (deliveries.map Delivery.name).Nodup)
    {notice : Notice} (about : ∀ delivery ∈ deliveries, delivery.notice = notice) (name : String) :
    (deliveries.filter fun delivery => delivery.name == name).map Delivery.notice =
      if name ∈ deliveries.map Delivery.name then [notice] else [] := by
  induction deliveries with
  | nil => rfl
  | cons first rest ih =>
    rw [List.map_cons, List.nodup_cons] at distinct
    have others := ih distinct.2 fun delivery listed => about delivery (List.mem_cons_of_mem _ listed)
    rw [List.filter_cons, List.map_cons]
    by_cases same : first.name = name
    · have none : name ∉ rest.map Delivery.name := same ▸ distinct.1
      rw [if_neg none] at others
      rw [if_pos (beq_iff_eq.mpr same), List.map_cons, others, same, if_pos List.mem_cons_self,
        about first List.mem_cons_self]
    · rw [if_neg fun equal => same (beq_iff_eq.mp equal), others]
      simp only [List.mem_cons, Ne.symm same, false_or]

/-- **A listener is told a notice at most once.** -/
theorem Fair.notices {notification : Notification} (fair : notification.Fair) (name : String) :
    (notification.accepted.filter fun delivery => delivery.name == name).map Delivery.notice =
      if notification.Reaches name then [notification.notice] else [] := by
  refine notices_of_name ?_ ?_ name
  · have distinct : (notification.deliveries.map Delivery.name).Nodup := by
      refine fair.order.imp fun {name other} before same => ?_
      rw [same, Std.compare_self] at before
      cases before
    rw [fair.accepted, List.map_take]
    exact distinct.sublist (List.take_sublist _ _)
  · intro delivery listed
    rw [fair.accepted, fair.deliveries] at listed
    obtain ⟨entry, _, rfl⟩ := List.mem_map.mp (List.mem_of_mem_take listed)
    rfl

/-- What is accepted for a listener is one delivery of each notice that reaches it. -/
theorem notices_accepted {notifications : List Notification}
    (fair : ∀ notification ∈ notifications, notification.Fair) (name : String) :
    ((notifications.flatMap accepted).filter fun delivery => delivery.name == name).map
        Delivery.notice =
      (notifications.filter (Reaches name)).map Notification.notice := by
  induction notifications with
  | nil => rfl
  | cons first rest ih =>
    have later := ih fun notification listed => fair notification (List.mem_cons_of_mem _ listed)
    have here := (fair first List.mem_cons_self).notices name
    rw [List.flatMap_cons, List.filter_append, List.map_append, here, later, List.filter_cons]
    by_cases reached : first.Reaches name
    · rw [if_pos reached, if_pos (decide_eq_true reached)]
      rfl
    · rw [if_neg reached, if_neg fun yes => reached (of_decide_eq_true yes)]
      rfl

end Notification

namespace Desk

/-- A notice becomes a notification. -/
def notify (listeners : Listeners) (desk : Desk) (notice : Notice) : Notification where
  notice := notice
  listeners := listeners
  free := desk.dispatcher.free
  answers := desk.dispatcher.answers (jobs listeners notice)

/-- Notices become notifications, one after the other. -/
def notifyAll (listeners : Listeners) : Desk → List Notice → List Notification
  | _, [] => []
  | desk, notice :: rest =>
    desk.notify listeners notice :: (desk.announce listeners notice).notifyAll listeners rest

theorem notices_notifyAll (listeners : Listeners) (desk : Desk) (notices : List Notice) :
    (desk.notifyAll listeners notices).map Notification.notice = notices := by
  induction notices generalizing desk with
  | nil => rfl
  | cons notice rest ih => exact congrArg (List.cons notice) (ih _)

section Notify

variable {listeners : Listeners} {desk : Desk} {notice : Notice}

theorem payloads_jobs (listeners : Listeners) (notice : Notice) :
    (jobs listeners notice).map Job.payload =
      listeners.toList.map fun (name, listener) => ⟨name, listener, notice⟩ := by
  unfold jobs
  rw [List.map_map]
  rfl

theorem accepted_notify : (desk.notify listeners notice).accepted =
    ((jobs listeners notice).take desk.dispatcher.free).map Job.payload :=
  (desk.dispatcher.filter_answers (jobs listeners notice) id).trans (List.append_nil _)

theorem dropped_notify : (desk.notify listeners notice).dropped =
    ((jobs listeners notice).drop desk.dispatcher.free).map Job.payload :=
  desk.dispatcher.filter_answers (jobs listeners notice) not

theorem deliveries_notify : (desk.notify listeners notice).deliveries =
    (jobs listeners notice).map Job.payload := by
  unfold notify Notification.deliveries
  dsimp only
  rw [Dispatcher.answers_eq, List.map_append, List.map_map, List.map_map]
  show (List.take _ _).map Job.payload ++ (List.drop _ _).map Job.payload = _
  rw [← List.map_append, List.take_append_drop]

/-- Every listener is sent every notice. -/
theorem deliveries_notifyAll (listeners : Listeners) (desk : Desk) (notices : List Notice) :
    (desk.notifyAll listeners notices).flatMap Notification.deliveries =
      notices.flatMap fun notice => (jobs listeners notice).map Job.payload := by
  induction notices generalizing desk with
  | nil => rfl
  | cons notice rest ih =>
    unfold notifyAll
    rw [List.flatMap_cons, List.flatMap_cons, ih, deliveries_notify]

/-- **Every notification is fair.** -/
theorem fair_notify (listeners : Listeners) (desk : Desk) (notice : Notice) :
    (desk.notify listeners notice).Fair where
  deliveries := deliveries_notify.trans (payloads_jobs listeners notice)
  order := by
    rw [deliveries_notify, payloads_jobs, List.map_map]
    have names : (listeners.toList.map fun entry => entry.1) = listeners.keys :=
      Std.ExtTreeMap.map_fst_toList_eq_keys
    show (listeners.toList.map fun entry => entry.1).Pairwise _
    rw [names]
    exact Std.ExtTreeMap.ordered_keys
  accepted := by
    rw [accepted_notify, deliveries_notify, List.map_take]
    rfl
  dropped := by
    rw [dropped_notify, deliveries_notify, List.map_drop]
    rfl

theorem fair_notifyAll (listeners : Listeners) (desk : Desk) (notices : List Notice) :
    ∀ notification ∈ desk.notifyAll listeners notices, notification.Fair := by
  induction notices generalizing desk with
  | nil => exact fun _ listed => by cases listed
  | cons notice rest ih =>
    intro notification listed
    rcases List.mem_cons.mp listed with rfl | later
    · exact fair_notify listeners desk notice
    · exact ih _ notification later

end Notify

/-! ### What began and what waits -/

section Account

variable {desk : Desk} {listeners : Listeners} {wall : Nat → Time.Instant} {now target : Nat}

/-- The deliveries that began, the first one first, and then those that wait. -/
def account (desk : Desk) : List Delivery :=
  desk.journal.begun ++ (desk.dispatcher.begun ++ desk.dispatcher.queued)

/-- What a listener leaves behind is not what began. -/
theorem begun_begin (journal : Journal) (now : Time.Instant) (delivery : Delivery) :
    (journal.begin now delivery).begun = journal.begun := by
  unfold Journal.begin
  split
  · rfl
  · rfl
  · split <;> rfl
  · rfl

/-- What happened goes to the journal. -/
theorem begun_record (now : Time.Instant) (occurrences : List (Occurrence Delivery)) (journal : Journal) :
    (occurrences.foldl (Journal.record now) journal).begun =
      journal.begun ++ occurrences.filterMap Occurrence.began? := by
  induction occurrences generalizing journal with
  | nil => exact (List.append_nil _).symm
  | cons occurrence rest ih =>
    rw [List.foldl_cons, ih]
    cases occurrence with
    | finished delivery => rfl
    | began delivery =>
      have entered : (journal.record now (.began delivery)).begun = journal.begun ++ [delivery] :=
        begun_begin _ now delivery
      rw [entered, List.append_assoc]
      rfl

theorem account_collect (desk : Desk) (now : Time.Instant) : (desk.collect now).account = desk.account := by
  unfold account collect Dispatcher.collect
  dsimp only
  rw [begun_record, List.append_assoc]
  rfl

/-- What the workers of a desk do by themselves. -/
structure Works (before after : Desk) : Prop where
  account : after.account = before.account
  workers : after.dispatcher.workers = before.dispatcher.workers
  closed : after.dispatcher.isShutDown = before.dispatcher.isShutDown
  load : after.dispatcher.load ≤ before.dispatcher.load

theorem Works.refl (desk : Desk) : desk.Works desk := ⟨rfl, rfl, rfl, Nat.le_refl _⟩

theorem Works.trans {first second third : Desk} (early : first.Works second) (late : second.Works third) :
    first.Works third where
  account := late.account.trans early.account
  workers := late.workers.trans early.workers
  closed := late.closed.trans early.closed
  load := Nat.le_trans late.load early.load

/-- **Workers begin deliveries in the order in which these wait.** -/
theorem works_run (moment : Moment) (desk : Desk) : desk.Works (desk.run moment) := by
  have works := desk.dispatcher.works_run moment.clock
  refine ⟨?_, works.workers, works.closed, works.load_le⟩
  unfold run
  rw [account_collect]
  exact congrArg (desk.journal.begun ++ ·) works.order

theorem works_advance (wall : Nat → Time.Instant) (now target : Nat) (desk : Desk) :
    desk.Works (Timed.advance wall now target desk) :=
  Timed.advance_keeps desk.Works (fun moment _ works => works.trans (works_run moment _)) (.refl desk)

/-- Of a desk that is up to date everything that began is in the journal. -/
theorem account_of_upToDate (upToDate : desk.UpToDate now) :
    desk.account = desk.journal.begun ++ desk.dispatcher.queued := by
  unfold account Dispatcher.begun
  rw [upToDate.collected]
  rfl

/-! ### Notices -/

/-- **What is accepted of a notice waits.** -/
theorem account_announce (desk : Desk) (notice : Notice) :
    (desk.announce listeners notice).account =
      desk.account ++ (desk.notify listeners notice).accepted := by
  unfold account announce
  rw [accepted_notify, Dispatcher.offerAll_eq]
  unfold Dispatcher.enqueue Dispatcher.queued
  dsimp only
  rw [List.map_append, ← List.append_assoc, ← List.append_assoc, ← List.append_assoc]
  rfl

theorem account_announceAll (desk : Desk) (notices : List Notice) :
    (notices.foldl (announce listeners) desk).account =
      desk.account ++ (desk.notifyAll listeners notices).flatMap Notification.accepted := by
  induction notices generalizing desk with
  | nil => exact (List.append_nil _).symm
  | cons notice rest ih =>
    rw [List.foldl_cons, ih, account_announce, List.append_assoc]
    rfl

/-! ### The end -/

/-- A desk and a dispatcher by itself whose leveled forms differ at most in what was recorded before. -/
def Serves (desk : Desk) (dispatcher : Dispatcher Delivery) : Prop :=
  ∃ earlier, desk.dispatcher.leveled id earlier = dispatcher.leveled id []

theorem Serves.run {dispatcher : Dispatcher Delivery} (serves : desk.Serves dispatcher)
    (moment : Moment) : (desk.run moment).Serves (dispatcher.run moment.clock) := by
  obtain ⟨earlier, same⟩ := serves
  let worked := desk.dispatcher.run moment.clock
  refine ⟨earlier ++ worked.occurrences.map (Occurrence.map id), ?_⟩
  rw [Dispatcher.leveled_run, ← same, ← Dispatcher.leveled_run]
  unfold Desk.run Desk.collect Dispatcher.collect Dispatcher.leveled
  dsimp only
  rw [List.map_nil, List.append_nil]

theorem Serves.due? {dispatcher : Dispatcher Delivery} (serves : desk.Serves dispatcher) :
    Timed.due? desk = Timed.due? dispatcher := by
  obtain ⟨earlier, same⟩ := serves
  have due := congrArg Dispatcher.due? same
  rw [Dispatcher.due?_leveled, Dispatcher.due?_leveled] at due
  exact due

theorem Serves.load {dispatcher : Dispatcher Delivery} (serves : desk.Serves dispatcher) :
    desk.dispatcher.load = dispatcher.load := by
  obtain ⟨earlier, same⟩ := serves
  have load := congrArg Dispatcher.load same
  rw [Dispatcher.load_leveled, Dispatcher.load_leveled] at load
  exact load

/-- **A desk that is closed has nothing left when the time comes that is computed for it.** -/
theorem load_drained (upToDate : desk.UpToDate now) (staffed : 0 < desk.dispatcher.workers)
    (closed : desk.dispatcher.isShutDown = true → desk.dispatcher.load = 0) :
    (Timed.advance wall now (desk.drainTime now) (desk.close.run ⟨now, wall now⟩)).dispatcher.load = 0 := by
  have works := works_run ⟨now, wall now⟩ desk.close
  unfold drainTime
  split
  next before =>
    rw [Timed.advance_done (Nat.le_refl now)]
    exact Nat.le_zero.mp (closed before ▸ works.load)
  · let dispatcher := desk.close.dispatcher
    have begun : dispatcher.run now = dispatcher.settle now := Dispatcher.run_eq_settle upToDate.waiting
    have serves : (Timed.advance wall now (dispatcher.drainTime now) (desk.close.run ⟨now, wall now⟩)).Serves
        (Timed.advance wall now (dispatcher.drainTime now) (dispatcher.run now)) := by
      have start : desk.close.Serves dispatcher := ⟨[], rfl⟩
      exact Timed.advance_alike Serves (fun _ _ => Serves.due?) (fun moment _ _ serves => serves.run moment)
        (start.run ⟨now, wall now⟩)
    have computed : dispatcher.drainTime now =
        Dispatcher.drainTimeFrom dispatcher.load now (dispatcher.run now) := by
      rw [begun]
      rfl
    have working := Dispatcher.works_run now dispatcher
    rw [serves.load, computed]
    refine Dispatcher.drained _ ?_ (Dispatcher.waiting_run now dispatcher)
      (Dispatcher.assigned_run now dispatcher) working.load_le
    rw [working.workers]
    exact staffed

/-! ### The invariant of a desk -/

/-- What began and what waits is what was accepted, and nothing is left of a desk that is closed. -/
structure Accounted (accepted : List Delivery) (desk : Desk) : Prop where
  account : desk.account = accepted
  staffed : 0 < desk.dispatcher.workers
  done : desk.dispatcher.isShutDown = true → desk.dispatcher.load = 0

variable {accepted : List Delivery}

theorem accounted_new (workers capacity timeout : Nat) :
    Accounted [] { dispatcher := .new workers capacity timeout } where
  account := rfl
  staffed := Nat.le_max_right workers 1
  done _ := rfl

theorem quiet_new (workers capacity timeout now : Nat) :
    Quiet now { dispatcher := .new workers capacity timeout } where
  waiting _ listed := by cases listed
  collected := rfl
  assigned := .inl rfl

/-- Workers leave the account of a desk as it is. -/
theorem Accounted.works {after : Desk} (accounted : desk.Accounted accepted)
    (works : desk.Works after) : after.Accounted accepted where
  account := works.account.trans accounted.account
  staffed := by
    rw [works.workers]
    exact accounted.staffed
  done before := by
    have none := accounted.done (works.closed.symm.trans before)
    have less := works.load
    omega

/-- **Notices add to the account what is accepted of them.** -/
theorem Accounted.announceAll (accounted : desk.Accounted accepted) (notices : List Notice) :
    (notices.foldl (announce listeners) desk).Accounted
      (accepted ++ (desk.notifyAll listeners notices).flatMap Notification.accepted) where
  account := by rw [account_announceAll, accounted.account]
  staffed := by
    rw [announceAll_eq]
    exact accounted.staffed
  done before := by
    rw [announceAll_eq] at before ⊢
    have none : desk.dispatcher.free = 0 := if_pos before
    rw [none, List.take_zero]
    unfold Dispatcher.enqueue Dispatcher.load
    dsimp only
    rw [List.append_nil]
    exact accounted.done before

/-- Notices wait at a desk: nothing begins by them, and nothing has to end. -/
theorem UpToDate.announceAll (upToDate : desk.UpToDate now) (notices : List Notice) :
    (notices.foldl (announce listeners) desk).UpToDate now := by
  rw [announceAll_eq]
  exact ⟨upToDate.waiting, upToDate.collected⟩

/-- **Nothing is left of a desk that was drained.** -/
theorem Accounted.drained (accounted : desk.Accounted accepted) (upToDate : desk.UpToDate now) :
    (Timed.advance wall now (desk.drainTime now) (desk.close.run ⟨now, wall now⟩)).Accounted accepted := by
  have works := (works_run ⟨now, wall now⟩ desk.close).trans
    (works_advance wall now (desk.drainTime now) (desk.close.run ⟨now, wall now⟩))
  refine ⟨works.account.trans accounted.account, ?_, fun _ => ?_⟩
  · rw [works.workers]
    exact accounted.staffed
  · exact load_drained upToDate accounted.staffed accounted.done

end Account

end Desk

end Switchboard

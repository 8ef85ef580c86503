/-
**Every write that succeeds is reported, and no other.**

The repository below may be any state machine: each of its calls may fail at any time, also right after
another one succeeded.

* `Recorded`, `Handler.recorded` — a repository that keeps a record of the writes that it applied.
* `Recorded.Told` — a write was applied and reported and its caller told so, or none of it.
  `Recorded.Untold` — it was applied, but not reported, and its caller was told that it failed.
* `Notifying.features_told`, `Notifying.properties_told` — every write is the one. A value that was set is read back
  for its notice, and if it cannot be read its write is the other (`Notifying.properties_untold`).
* `Desk.announceAll_eq` — notices become jobs, one for each listener, and as many of them are taken, the first
  ones first, as the queue has room for.
* `Notifying.writes_are_reported` — all of it together.
-/

import Switchboard.Delivery.Desk
import Switchboard.Proofs.Notices.Calls
import Switchboard.Proofs.Schedule.Work
import Switchboard.Repository.Composed
import Switchboard.Repository.Backend

namespace Switchboard

open Act

/-! ### Repositories with a record -/

/-- A state with the calls that were applied, the oldest first. -/
structure Recorded (C σ : Type) where
  applied : List C := []
  below : σ

/-- A handler that records some of its calls when they succeed. -/
def Handler.recorded {C σ : Type} {Reply : C → Type} (isWrite : C → Bool) (inner : Handler Reply σ) :
    Handler Reply (Recorded C σ) := fun call => do
  let reply ← Act.onPart Recorded.below (fun below state => { state with below }) (inner call)
  if isWrite call then modify fun state => { state with applied := state.applied ++ [call] }
  pure reply

namespace Recorded

variable {C N σ α : Type} {Reply : C → Type} {isWrite : C → Bool} {inner : Handler Reply σ}
  {moment : Moment} {state : Recorded C σ}

theorem perform_write {call : C} (write : isWrite call = true) :
    (inner.recorded isWrite call).perform moment state =
      (((inner call).perform moment state.below).1,
        { applied := state.applied ++ Notified.reported [call] ((inner call).perform moment state.below).1
          below := ((inner call).perform moment state.below).2 }) := by
  unfold Handler.recorded
  rw [perform_bind, perform_onPart]
  cases ((inner call).perform moment state.below).1 with
  | ok reply =>
    dsimp only
    rw [if_pos write]
    rfl
  | error fault =>
    show (Except.error fault, _) = (Except.error fault, _)
    rw [Notified.reported, List.append_nil]

theorem perform_read {call : C} (read : isWrite call = false) :
    (inner.recorded isWrite call).perform moment state =
      (((inner call).perform moment state.below).1,
        { state with below := ((inner call).perform moment state.below).2 }) := by
  unfold Handler.recorded
  rw [perform_bind, perform_onPart]
  cases ((inner call).perform moment state.below).1 with
  | ok reply =>
    dsimp only
    rw [if_neg (by rw [read]; exact Bool.false_ne_true)]
    rfl
  | error fault => rfl

/-- A write was applied once, its notices were submitted and its caller was told that it succeeded; or it was
not applied, nothing was submitted and its caller was told that it failed. -/
def Told (call : C) (notices : List N) (before : Notified N (Recorded C σ))
    (performed : Except Fault α × Notified N (Recorded C σ)) : Prop :=
  (∃ reply, performed.1 = .ok reply ∧ performed.2.below.applied = before.below.applied ++ [call] ∧
      performed.2.submitted = before.submitted ++ notices) ∨
    ∃ fault, performed.1 = .error fault ∧ performed.2.below.applied = before.below.applied ∧
      performed.2.submitted = before.submitted

/-- A write was applied once, but nothing was submitted and its caller was told that it failed. -/
def Untold (call : C) (before : Notified N (Recorded C σ))
    (performed : Except Fault α × Notified N (Recorded C σ)) : Prop :=
  ∃ fault, performed.1 = .error fault ∧ performed.2.below.applied = before.below.applied ++ [call] ∧
    performed.2.submitted = before.submitted

theorem Untold.not_told {call : C} {notices : List N} {before : Notified N (Recorded C σ)}
    {performed : Except Fault α × Notified N (Recorded C σ)} (untold : Untold call before performed) :
    ¬Told call notices before performed := by
  obtain ⟨_, failed, applied, _⟩ := untold
  rintro (⟨reply, done, _⟩ | ⟨_, _, unapplied, _⟩)
  · rw [failed] at done
    cases done
  · rw [applied, List.append_right_eq_self] at unapplied
    cases unapplied

/-- A write that is reported right after it was applied. -/
theorem told_of_reports {call : C} {notices : List N} (write : isWrite call = true)
    {above : Act (Notified N (Recorded C σ)) (Reply call)}
    (reports : Notifying.Reports above (inner.recorded isWrite call) notices)
    (moment : Moment) (state : Notified N (Recorded C σ)) :
    Told call notices state (above.perform moment state) := by
  rw [reports moment state, perform_write write]
  cases outcome : ((inner call).perform moment state.below.below).1 with
  | ok reply => exact .inl ⟨reply, rfl, rfl, rfl⟩
  | error fault => exact .inr ⟨fault, rfl, List.append_nil _, List.append_nil _⟩

end Recorded

/-! ### Writes above any repository -/

/-- The members of the group that a call is about, as the repository lists them before the call. -/
def FeatureCall.members {σ : Type} (inner : FeatureHandler σ) (moment : Moment) (state : σ) :
    FeatureCall → List Feature
  | setGroupEnabled group _ =>
    match ((inner (.readGroup group)).perform moment state).1 with
    | .ok members => members
    | .error _ => []
  | _ => []

/-- The outcome of reading back the property that a call sets. -/
def PropertyCall.readBack {σ : Type} (inner : PropertyHandler σ) (moment : Moment) (state : σ) :
    PropertyCall → Option (Except Fault Property)
  | store _ => none
  | setValue id raw =>
    some ((inner (.store (.fetch id))).perform moment
      ((inner (.setValue id raw)).perform moment state).2).1

/-- The property that is read back after a call, if it can be read. -/
def PropertyCall.stored {σ : Type} (inner : PropertyHandler σ) (moment : Moment) (state : σ)
    (call : PropertyCall) : Option Property :=
  match call.readBack inner moment state with
  | some (.ok property) => some property
  | some (.error _) | none => none

/-- A value that the call sets can be read back. -/
def PropertyCall.ReadsBack {σ : Type} (inner : PropertyHandler σ) (moment : Moment) (state : σ)
    (call : PropertyCall) : Prop :=
  ∀ reply fault, ((inner call).perform moment state).1 = .ok reply →
    call.readBack inner moment state ≠ some (.error fault)

namespace Notifying

open Recorded

variable {σ : Type} {moment : Moment}

theorem setGroupEnabled_told (inner : FeatureHandler σ) (group : String) (enabled : Bool)
    (moment : Moment) (state : Notified FeatureNotice (Recorded FeatureCall σ)) :
    Told (.setGroupEnabled group enabled)
      (FeatureCall.notices (FeatureCall.members inner moment state.below.below
        (.setGroupEnabled group enabled)) (.setGroupEnabled group enabled)) state
      ((features (inner.recorded FeatureCall.isWrite) (.setGroupEnabled group enabled)).perform
        moment state) := by
  unfold features FeatureCall.members
  rw [perform_bind, Notified.perform_under, perform_read rfl]
  dsimp only
  cases ((inner (.readGroup group)).perform moment state.below.below).1 with
  | error fault => exact .inr ⟨fault, rfl, rfl, rfl⟩
  | ok members =>
    let write := inner.recorded FeatureCall.isWrite (.setGroupEnabled group enabled)
    let toggles := members.map fun member => FeatureNotice.toggled member.id enabled
    have reports : Reports (do Notified.under write; Notified.submit toggles) write toggles :=
      fun _ _ => Notified.perform_reported _ _
    exact told_of_reports rfl reports moment _

/-- **Every write of features is applied and reported, or neither.** -/
theorem features_told (inner : FeatureHandler σ) {call : FeatureCall} (write : call.isWrite = true)
    (moment : Moment) (state : Notified FeatureNotice (Recorded FeatureCall σ)) :
    Told call (call.notices (call.members inner moment state.below.below)) state
      ((features (inner.recorded FeatureCall.isWrite) call).perform moment state) := by
  cases call with
  | setGroupEnabled group enabled => exact setGroupEnabled_told inner group enabled moment state
  | store call =>
    refine told_of_reports write (reports_features _ ?_ ?_) moment state
    · rintro id read
      rw [read] at write
      cases write
    · exact fun _ _ => nofun
  | setEnabled | addToGroup | removeFromGroup =>
    exact told_of_reports write (reports_features _ (fun _ => nofun) fun _ _ => nofun) moment state
  | hasGroup | readGroup | groups => cases write

theorem setValue_told (inner : PropertyHandler σ) (id raw : String) (moment : Moment)
    (state : Notified PropertyNotice (Recorded PropertyCall σ))
    (reads : PropertyCall.ReadsBack inner moment state.below.below (.setValue id raw)) :
    Told (.setValue id raw)
      (PropertyCall.notices (PropertyCall.stored inner moment state.below.below (.setValue id raw))
        (.setValue id raw)) state
      ((properties (inner.recorded PropertyCall.isWrite) (.setValue id raw)).perform moment state) := by
  unfold PropertyCall.ReadsBack PropertyCall.readBack at reads
  unfold properties PropertyCall.stored PropertyCall.readBack
  rw [perform_bind, Notified.perform_under, perform_write rfl]
  cases set : ((inner (.setValue id raw)).perform moment state.below.below).1 with
  | error fault => exact .inr ⟨fault, rfl, List.append_nil _, rfl⟩
  | ok done =>
    dsimp only
    rw [perform_bind, Notified.perform_under, perform_read rfl]
    dsimp only
    cases read : ((inner (.store (.fetch id))).perform moment
        ((inner (.setValue id raw)).perform moment state.below.below).2).1 with
    | ok property => exact .inl ⟨(), rfl, rfl, rfl⟩
    | error fault => exact absurd (congrArg some read) (reads done fault set)

/-- **Every write of properties is applied and reported, or neither**, if what was set can be read back. -/
theorem properties_told (inner : PropertyHandler σ) {call : PropertyCall} (write : call.isWrite = true)
    (moment : Moment) (state : Notified PropertyNotice (Recorded PropertyCall σ))
    (reads : call.ReadsBack inner moment state.below.below) :
    Told call (call.notices (call.stored inner moment state.below.below)) state
      ((properties (inner.recorded PropertyCall.isWrite) call).perform moment state) := by
  cases call with
  | setValue id raw => exact setValue_told inner id raw moment state reads
  | store call =>
    refine told_of_reports write (reports_properties _ ?_) moment state
    rintro id read
    rw [read] at write
    cases write

/-- **A value that was set and cannot be read back** goes unreported. -/
theorem properties_untold (inner : PropertyHandler σ) {call : PropertyCall} (moment : Moment)
    (state : Notified PropertyNotice (Recorded PropertyCall σ))
    (lost : ¬call.ReadsBack inner moment state.below.below) :
    Untold call state ((properties (inner.recorded PropertyCall.isWrite) call).perform moment state) := by
  unfold PropertyCall.ReadsBack at lost
  push Not at lost
  obtain ⟨reply, fault, set, read⟩ := lost
  cases call with
  | store call => exact nomatch read
  | setValue id raw =>
    have failed := Option.some.inj read
    refine ⟨fault, ?_⟩
    unfold properties
    rw [perform_bind, Notified.perform_under, perform_write rfl, set]
    dsimp only
    rw [perform_bind, Notified.perform_under, perform_read rfl, failed]
    exact ⟨rfl, rfl, rfl⟩

end Notifying

/-! ### Notices become jobs -/

namespace Dispatcher

variable {P : Type}

/-- The number of jobs that would be taken now. -/
def free (dispatcher : Dispatcher P) : Nat :=
  if dispatcher.isShutDown then 0 else dispatcher.capacity - dispatcher.queue.length

/-- The dispatcher with more jobs in its queue and others counted as dropped. -/
def enqueue (dispatcher : Dispatcher P) (taken dropped : List (Job P)) : Dispatcher P :=
  { dispatcher with
    queue := dispatcher.queue ++ taken
    stats := { dispatcher.stats with
      dispatched := dispatcher.stats.dispatched + taken.length
      dropped := dispatcher.stats.dropped + dropped.length } }

theorem enqueue_enqueue (dispatcher : Dispatcher P) (taken dropped taken' dropped' : List (Job P)) :
    (dispatcher.enqueue taken dropped).enqueue taken' dropped' =
      dispatcher.enqueue (taken ++ taken') (dropped ++ dropped') := by
  unfold enqueue
  simp only [List.append_assoc, List.length_append, Nat.add_assoc]

theorem free_enqueue (dispatcher : Dispatcher P) (taken dropped : List (Job P)) :
    (dispatcher.enqueue taken dropped).free = dispatcher.free - taken.length := by
  show (if dispatcher.isShutDown then 0
    else dispatcher.capacity - (dispatcher.queue ++ taken).length) = _
  unfold free
  split
  · rw [Nat.zero_sub]
  · rw [List.length_append, Nat.sub_sub]

theorem free_pos {dispatcher : Dispatcher P} : 0 < dispatcher.free ↔
    dispatcher.isShutDown = false ∧ dispatcher.queue.length < dispatcher.capacity := by
  unfold free
  cases dispatcher.isShutDown with
  | true => exact iff_of_false (Nat.lt_irrefl 0) fun ⟨isOpen, _⟩ => Bool.noConfusion isOpen
  | false => exact Nat.sub_pos_iff_lt.trans (and_iff_right rfl).symm

/-- **Of jobs that are offered together as many are taken as the queue has room for**, the first ones first. -/
theorem offerAll_eq (dispatcher : Dispatcher P) (jobs : List (Job P)) :
    (dispatcher.offerAll jobs).2 =
      dispatcher.enqueue (jobs.take dispatcher.free) (jobs.drop dispatcher.free) := by
  induction jobs generalizing dispatcher with
  | nil =>
    unfold enqueue
    rw [List.take_nil, List.drop_nil, List.append_nil]
    rfl
  | cons job rest ih =>
    show ((dispatcher.offer job).2.offerAll rest).2 = _
    by_cases room : 0 < dispatcher.free
    · obtain ⟨isOpen, less⟩ := free_pos.mp room
      have taken : (dispatcher.offer job).2 = dispatcher.enqueue [job] [] :=
        congrArg Prod.snd (offer_of_free job isOpen less)
      obtain ⟨others, one⟩ := Nat.exists_eq_succ_of_ne_zero (Nat.ne_of_gt room)
      rw [taken, ih, enqueue_enqueue, free_enqueue, one]
      rfl
    · have dropped : (dispatcher.offer job).2 = dispatcher.enqueue [] [job] := by
        rw [offer_of_not_free job (free_pos.not.mp room)]
        unfold enqueue
        rw [List.append_nil]
        rfl
      have none : dispatcher.free = 0 := Nat.eq_zero_of_not_pos room
      rw [dropped, ih, enqueue_enqueue, free_enqueue, none]
      rfl

theorem offerAll_append (dispatcher : Dispatcher P) (early late : List (Job P)) :
    (dispatcher.offerAll (early ++ late)).2 = ((dispatcher.offerAll early).2.offerAll late).2 := by
  induction early generalizing dispatcher with
  | nil => rfl
  | cons job rest ih => exact ih (dispatcher.offer job).2

end Dispatcher

namespace Desk

/-- **Notices become jobs, one for each listener**, and as many are taken as the queue has room for. -/
theorem announceAll_eq (listeners : Listeners) (desk : Desk) (notices : List Notice) :
    notices.foldl (announce listeners) desk =
      { desk with
        dispatcher := desk.dispatcher.enqueue
          ((notices.flatMap (jobs listeners)).take desk.dispatcher.free)
          ((notices.flatMap (jobs listeners)).drop desk.dispatcher.free) } := by
  rw [← Dispatcher.offerAll_eq]
  induction notices generalizing desk with
  | nil => rfl
  | cons notice rest ih =>
    rw [List.foldl_cons, ih, List.flatMap_cons, Dispatcher.offerAll_append]
    rfl

end Desk

/-! ### All of it -/

/-- **Every write that succeeds is reported, and no other, whatever fails.** Above any repository, (1) a write
of features is applied, its notices submitted and its caller told so, or none of it; (2) so it is for a write
of properties, but for a value that was set and cannot be read back: its write is applied, nothing is submitted,
and its caller is told that it failed; (3) every notice that is submitted becomes one job for each listener, of
which the first ones are taken as long as the queue is open and has room; the others are counted as dropped, and
nothing else comes of them. -/
theorem Notifying.writes_are_reported {σ τ : Type} (ofFeatures : FeatureHandler σ)
    (ofProperties : PropertyHandler τ) (moment : Moment) :
    (∀ state (call : FeatureCall), call.isWrite = true →
      Recorded.Told call (call.notices (call.members ofFeatures moment state.below.below)) state
        ((features (ofFeatures.recorded FeatureCall.isWrite) call).perform moment state)) ∧
    (∀ state (call : PropertyCall), call.isWrite = true →
      let performed := (properties (ofProperties.recorded PropertyCall.isWrite) call).perform moment state
      (call.ReadsBack ofProperties moment state.below.below →
        Recorded.Told call (call.notices (call.stored ofProperties moment state.below.below)) state performed) ∧
      (¬call.ReadsBack ofProperties moment state.below.below → Recorded.Untold call state performed)) ∧
    ∀ (listeners : Listeners) (desk : Desk) (notices : List Notice),
      let jobs := notices.flatMap (Desk.jobs listeners)
      notices.foldl (Desk.announce listeners) desk =
        { desk with
          dispatcher := desk.dispatcher.enqueue (jobs.take desk.dispatcher.free)
            (jobs.drop desk.dispatcher.free) } :=
  ⟨fun state _ write => features_told ofFeatures write moment state,
    fun state _ write => ⟨properties_told ofProperties write moment state,
      properties_untold ofProperties moment state⟩,
    Desk.announceAll_eq⟩

/-- A group of two is switched on, and a limit is set that can be read back: both are applied and reported. -/
theorem Notifying.writes_are_reported_of_two :
    let moment : Moment := ⟨0, .epoch⟩
    let first := { Feature.new "a" .epoch with group := some "g" }
    let second := { Feature.new "b" .epoch with group := some "g" }
    let limit := Property.new "limit" (.text "1") .epoch
    let members : Notified FeatureNotice (Recorded FeatureCall (Backend Feature)) :=
      { below := { below := { store := (Store.empty.insert first).insert second } } }
    let limits : Notified PropertyNotice (Recorded PropertyCall (Backend Property)) :=
      { below := { below := { store := Store.empty.insert limit } } }
    let set := PropertyCall.setValue "limit" "2"
    Recorded.Told (.setGroupEnabled "g" true) [.toggled "a" true, .toggled "b" true] members
        ((features ((Repository.features Backend.handle).recorded FeatureCall.isWrite)
          (.setGroupEnabled "g" true)).perform moment members) ∧
      set.ReadsBack (Repository.properties Backend.handle) moment limits.below.below ∧
      Recorded.Told set [.updated { limit with value := .text "2" }] limits
        ((properties ((Repository.properties Backend.handle).recorded PropertyCall.isWrite)
          set).perform moment limits) := by
  intro moment first second limit members limits set
  obtain ⟨ofFeatures, ofProperties, _⟩ := writes_are_reported (Repository.features Backend.handle)
    (Repository.properties Backend.handle) moment
  have listed : FeatureCall.members (Repository.features Backend.handle) moment members.below.below
      (.setGroupEnabled "g" true) = [first, second] := by
    unfold FeatureCall.members
    dsimp only [members, first, second]
    rfl
  have read : set.readBack (Repository.properties Backend.handle) moment limits.below.below =
      some (.ok { limit with value := .text "2" }) := by
    unfold PropertyCall.readBack
    dsimp only [set, limits, limit, moment]
    rfl
  have reads : set.ReadsBack (Repository.properties Backend.handle) moment limits.below.below := by
    intro reply fault _ failed
    rw [read] at failed
    cases failed
  have toggled := ofFeatures members (.setGroupEnabled "g" true) rfl
  have updated := (ofProperties limits set rfl).1 reads
  rw [listed] at toggled
  unfold PropertyCall.stored at updated
  rw [read] at updated
  exact ⟨toggled, reads, updated⟩

/-- A repository whose next calls fail without effect where `fates` says so. -/
structure Flaky (σ : Type) where
  fates : List Bool
  below : σ

/-- A handler whose calls fail as it is fated. -/
def Handler.flaky {C σ : Type} {Reply : C → Type} (inner : Handler Reply σ) :
    Handler Reply (Flaky σ) := fun call => do
  let fates ← modifyGet fun state => (state.fates, { state with fates := state.fates.tail })
  if fates.head? = some false then throw Backend.offline
  Act.onPart Flaky.below (fun below state => { state with below }) (inner call)

/-- **A write that succeeds can go unreported.** A value is set in a repository whose next call fails: the value is
kept, but nothing is reported, and the caller is told that it failed. -/
theorem Notifying.writes_can_go_unreported :
    let moment : Moment := ⟨0, .epoch⟩
    let limit := Property.new "limit" (.text "1") .epoch
    let before : Notified PropertyNotice (Recorded PropertyCall (Flaky (Backend Property))) :=
      { below := { below := { fates := [true, false], below := { store := Store.empty.insert limit } } } }
    let performed := (properties ((Repository.properties Backend.handle).flaky.recorded PropertyCall.isWrite)
      (.setValue "limit" "2")).perform moment before
    performed.1 = .error Backend.offline ∧ performed.2.below.applied = [.setValue "limit" "2"] ∧
      performed.2.below.below.below.store.find? "limit" = some { limit with value := .text "2" } ∧
      performed.2.submitted = [] ∧ ∀ notices, ¬Recorded.Told (.setValue "limit" "2") notices before performed := by
  refine ⟨?_, ?_, ?_, ?_, fun notices => Recorded.Untold.not_told ⟨Backend.offline, ?_, ?_, ?_⟩⟩
  all_goals rfl

end Switchboard

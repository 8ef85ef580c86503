/-
**The usage of features tells their history.**

* `UsageEvent` — a feature was found on, was deleted, or all features were; `UsageEvent.count` — how often a feature was
  found on after the last event that forgets it.
* `Usage.Counts` — a usage tells a history; `Usage.counts_replay` — the usage to which events add up tells these events.
* `Usage.receive_eq` — the counter of uses makes of a notice what it makes of its event.
* `Journal.CountsAfter` — of what listeners were told, the usage in a journal tells all but a first part. Whatever
  workers do keeps this (`Desk.countsAfter_run`).
-/

import Mathlib.Algebra.GroupWithZero.Nat
import Mathlib.Data.List.DropRight
import Switchboard.Proofs.Delivery.Account
import Switchboard.Proofs.Table

namespace Switchboard

/-- What counts for the usage of features: one was found on, one was deleted, or all were. -/
inductive UsageEvent where
  | hit (id : String)
  | removed (id : String)
  | cleared
  deriving DecidableEq, Repr

namespace UsageEvent

variable {id : String} {history : List UsageEvent}

/-- With the event, what was before it no longer counts for a feature. -/
def forgets (id : String) : UsageEvent → Bool
  | hit _ => false
  | removed other => other == id
  | cleared => true

/-- How often a feature was found on after the last event that forgets it. -/
def count (id : String) (history : List UsageEvent) : Nat :=
  (history.rtakeWhile fun event => !event.forgets id).count (.hit id)

theorem count_of_forgets {event : UsageEvent} (forgets : event.forgets id = true) :
    count id (history ++ [event]) = 0 := by
  unfold count
  rw [List.rtakeWhile_concat, forgets]
  rfl

theorem count_of_keeps {event : UsageEvent} (keeps : event.forgets id = false) :
    count id (history ++ [event]) = count id history + if event = .hit id then 1 else 0 := by
  unfold count
  rw [List.rtakeWhile_concat, keeps, Bool.not_false, if_pos rfl, List.count_append, List.count_singleton]
  simp only [beq_iff_eq]

end UsageEvent

/-! ### Usage -/

namespace Usage

variable {usage : Usage} {history : List UsageEvent}

/-- The usage after an event. -/
def after (usage : Usage) : UsageEvent → Usage
  | .hit id => ⟨usage.counts.insert id (usage.hits id + 1)⟩
  | .removed id => ⟨usage.counts.erase id⟩
  | .cleared => reset

/-- The usage to which events add up. -/
def replay (history : List UsageEvent) : Usage := history.foldl after reset

theorem replay_concat (history : List UsageEvent) (event : UsageEvent) :
    replay (history ++ [event]) = (replay history).after event := List.foldl_concat _ _ _ _

/-- A usage tells how often features were found on. -/
structure Counts (history : List UsageEvent) (usage : Usage) : Prop where
  hits : ∀ id, usage.hits id = UsageEvent.count id history
  total : usage.total = (usage.counts.keys.map usage.hits).sum
  snapshot : ∀ id, usage.counts[id]? =
    if 0 < UsageEvent.count id history then some (UsageEvent.count id history) else none

/-- **The total is the sum of what was counted for each feature.** -/
theorem total_eq (usage : Usage) : usage.total = (usage.counts.keys.map usage.hits).sum := by
  have each : usage.counts.keys.map usage.hits = usage.counts.values := by
    rw [← Std.ExtTreeMap.map_fst_toList_eq_keys, Table.values_eq, List.map_map]
    refine List.map_congr_left fun entry listed => ?_
    have found : usage.counts[entry.1]? = some entry.2 :=
      Std.ExtTreeMap.mem_toList_iff_getElem?_eq_some.mp listed
    show (usage.counts[entry.1]?).getD 0 = entry.2
    rw [found]
    rfl
  rw [each, List.sum_eq_foldl]
  rfl

/-- What is not counted at all is not held. -/
theorem hits_of_snapshot {id : String} {count : Nat}
    (held : usage.counts[id]? = if 0 < count then some count else none) : usage.hits id = count := by
  unfold hits
  rw [held]
  split
  · rfl
  · show 0 = count
    omega

theorem getElem?_replay (history : List UsageEvent) (id : String) : (replay history).counts[id]? =
    if 0 < UsageEvent.count id history then some (UsageEvent.count id history) else none := by
  induction history using List.reverseRecOn with
  | nil => rfl
  | append_singleton history event ih =>
    rw [replay_concat]
    cases event with
    | hit other =>
      show ((replay history).counts.insert other ((replay history).hits other + 1))[id]? = _
      rw [Table.getElem?_insert_eq, UsageEvent.count_of_keeps rfl]
      by_cases same : other = id
      · subst same
        rw [if_pos rfl, if_pos rfl, if_pos (Nat.succ_pos _), hits_of_snapshot ih]
      · have differs : UsageEvent.hit other ≠ .hit id := fun equal => same (UsageEvent.hit.inj equal)
        rw [if_neg same, if_neg differs, Nat.add_zero, ih]
    | removed other =>
      show ((replay history).counts.erase other)[id]? = _
      rw [Table.getElem?_erase_eq]
      by_cases same : other = id
      · have forgets : (UsageEvent.removed other).forgets id = true := beq_iff_eq.mpr same
        rw [if_pos same, UsageEvent.count_of_forgets forgets]
        rfl
      · have keeps : (UsageEvent.removed other).forgets id = false := beq_eq_false_iff_ne.mpr same
        rw [if_neg same, UsageEvent.count_of_keeps keeps, ih]
        rfl
    | cleared =>
      rw [UsageEvent.count_of_forgets rfl]
      rfl

/-- **The usage to which events add up tells these events.** -/
theorem counts_replay (history : List UsageEvent) : (replay history).Counts history where
  hits id := hits_of_snapshot (getElem?_replay history id)
  total := total_eq _
  snapshot := getElem?_replay history

end Usage

/-! ### Notices -/

/-- The event that a notice tells of, if it counts for the usage. -/
def FeatureNotice.usageEvent? : FeatureNotice → Option UsageEvent
  | .used id _ => some (.hit id)
  | .store (.deleted id) => some (.removed id)
  | .store .allDeleted => some .cleared
  | .store (.created _) | .store (.updated _) | .store .prepared => none
  | .toggled _ _ | .addedToGroup _ _ | .removedFromGroup _ _ => none

/-- **The counter of uses makes of a notice what it makes of its event.** -/
theorem Usage.receive_eq (usage : Usage) (notice : FeatureNotice) :
    usage.receive notice = notice.usageEvent?.elim usage usage.after := by
  cases notice with
  | store notice => cases notice <;> rfl
  | used | toggled | addedToGroup | removedFromGroup => rfl

/-! ### Journals -/

/-- The event that a delivery brings to the counter of uses. -/
def Delivery.usageEvent? (delivery : Delivery) : Option UsageEvent :=
  match delivery.listener, delivery.notice with
  | .usage, .feature notice => notice.usageEvent?
  | _, _ => none

/-- The usage in a journal tells what listeners were told, but for deliveries that came first. -/
def Journal.CountsAfter (told : List Delivery) (journal : Journal) : Prop :=
  ∃ later, journal.begun = told ++ later ∧
    journal.usage = Usage.replay (later.filterMap Delivery.usageEvent?)

namespace Journal

variable {told : List Delivery} {journal : Journal}

/-- A reset begins a new count. -/
theorem countsAfter_reset (journal : Journal) :
    CountsAfter journal.begun { journal with usage := Usage.reset } :=
  ⟨[], (List.append_nil _).symm, rfl⟩

/-- What listeners leave behind of a delivery: of these only the counter of uses changes the usage. -/
theorem usage_begin (journal : Journal) (now : Time.Instant) (delivery : Delivery) :
    (journal.begin now delivery).usage = delivery.usageEvent?.elim journal.usage journal.usage.after := by
  obtain ⟨name, listener, notice⟩ := delivery
  cases listener with
  | usage =>
    cases notice with
    | feature notice => exact Usage.receive_eq _ _
    | property notice => rfl
  | recorder | quiet | audit => rfl

theorem CountsAfter.begin (counts : journal.CountsAfter told) (now : Time.Instant) (delivery : Delivery) :
    ({ journal with begun := journal.begun ++ [delivery] }.begin now delivery).CountsAfter told := by
  obtain ⟨later, begun, usage⟩ := counts
  refine ⟨later ++ [delivery], ?_, ?_⟩
  · rw [Desk.begun_begin, begun, List.append_assoc]
  · rw [usage_begin, List.filterMap_append, usage, List.filterMap_cons, List.filterMap_nil]
    cases delivery.usageEvent? with
    | none => exact congrArg Usage.replay (List.append_nil _).symm
    | some event => exact (Usage.replay_concat _ event).symm

theorem CountsAfter.record (counts : journal.CountsAfter told) (now : Time.Instant)
    (occurrence : Occurrence Delivery) : (journal.record now occurrence).CountsAfter told := by
  cases occurrence with
  | finished delivery => exact counts
  | began delivery => exact counts.begin now delivery

end Journal

/-! ### Desks -/

namespace Desk

variable {told : List Delivery} {desk : Desk}

/-- **Whatever workers do, the usage tells what listeners were told.** -/
theorem countsAfter_run (counts : desk.journal.CountsAfter told) (moment : Moment) :
    (desk.run moment).journal.CountsAfter told := by
  unfold run collect
  dsimp only
  exact List.foldlRecOn _ _ counts fun _ counts occurrence _ => counts.record moment.wall occurrence

theorem journal_announceAll (listeners : Listeners) (desk : Desk) (notices : List Notice) :
    (notices.foldl (announce listeners) desk).journal = desk.journal := by
  induction notices generalizing desk with
  | nil => rfl
  | cons notice rest ih => exact ih _

end Desk

/-! ### Listeners -/

/-- The counter of uses is registered under one name, and under no other. -/
def Listeners.CountAs (name : String) (listeners : Listeners) : Prop :=
  ∀ other : String, listeners[other]? = some .usage ↔ other = name

section Listeners

variable {name : String} {listeners : Listeners}

theorem Listeners.CountAs.insert (counts : Listeners.CountAs name listeners) {other : String} {listener : Listener}
    (differs : other ≠ name) (different : listener ≠ .usage) :
    Listeners.CountAs name (listeners.insert other listener) := by
  intro key
  rw [Table.getElem?_insert_eq]
  by_cases same : other = key
  · subst same
    rw [if_pos rfl, Option.some.injEq]
    exact iff_of_false different differs
  · rw [if_neg same]
    exact counts key

theorem Listeners.CountAs.erase (counts : Listeners.CountAs name listeners) {other : String}
    (differs : other ≠ name) : Listeners.CountAs name (listeners.erase other) := by
  intro key
  rw [Table.getElem?_erase_eq]
  by_cases same : other = key
  · subst same
    rw [if_pos rfl]
    exact iff_of_false (fun held => by cases held) differs
  · rw [if_neg same]
    exact counts key

/-- **Of a notice about features, one delivery goes to the counter of uses.** -/
theorem history_jobs (counts : Listeners.CountAs name listeners) (notice : FeatureNotice) :
    ((Desk.jobs listeners (.feature notice)).map Job.payload).filterMap Delivery.usageEvent? =
      notice.usageEvent?.toList := by
  have listed : (name, Listener.usage) ∈ listeners.toList :=
    Std.ExtTreeMap.mem_toList_iff_getElem?_eq_some.mpr ((counts name).mpr rfl)
  obtain ⟨early, late, parts⟩ := List.append_of_mem listed
  have distinct : listeners.toList.Pairwise fun entry other => ¬compare entry.1 other.1 = .eq :=
    Std.ExtTreeMap.distinct_keys_toList
  rw [parts, List.pairwise_append, List.pairwise_cons] at distinct
  obtain ⟨_, ⟨afterwards, _⟩, before⟩ := distinct
  have silent : ∀ entry ∈ listeners.toList, ¬compare entry.1 name = .eq →
      Delivery.usageEvent? ⟨entry.1, entry.2, .feature notice⟩ = none := by
    rintro ⟨other, listener⟩ present differs
    have found : listeners[other]? = some listener :=
      Std.ExtTreeMap.mem_toList_iff_getElem?_eq_some.mp present
    cases listener with
    | usage => exact absurd (Std.compare_eq_iff_eq.mpr ((counts other).mp found)) differs
    | recorder | quiet | audit => rfl
  have none : ∀ entries : List (String × Listener), (∀ entry ∈ entries, entry ∈ listeners.toList) →
      (∀ entry ∈ entries, ¬compare entry.1 name = .eq) →
      entries.filterMap (fun entry => Delivery.usageEvent? ⟨entry.1, entry.2, .feature notice⟩) = [] :=
    fun entries present differ => List.filterMap_eq_nil_iff.mpr fun entry listed =>
      silent entry (present entry listed) (differ entry listed)
  rw [Desk.payloads_jobs, List.filterMap_map]
  show listeners.toList.filterMap (fun entry => Delivery.usageEvent? ⟨entry.1, entry.2, .feature notice⟩) = _
  have head := none early (fun entry listed => parts ▸ List.mem_append_left _ listed)
    fun entry listed => before entry listed (name, .usage) List.mem_cons_self
  have tail := none late (fun entry listed => parts ▸ List.mem_append_right _ (List.mem_cons_of_mem _ listed))
    fun entry listed same => afterwards entry listed (Std.compare_eq_iff_eq.mpr (Std.compare_eq_iff_eq.mp same).symm)
  have told : Delivery.usageEvent? ⟨name, .usage, .feature notice⟩ = notice.usageEvent? := rfl
  rw [parts, List.filterMap_append, List.filterMap_cons, head, tail, List.nil_append, told]
  cases notice.usageEvent? <;> rfl

/-- A notice about properties tells the counter of uses nothing. -/
theorem history_jobs_of_property (listeners : Listeners) (notice : PropertyNotice) :
    ((Desk.jobs listeners (.property notice)).map Job.payload).filterMap Delivery.usageEvent? = [] := by
  refine List.filterMap_eq_nil_iff.mpr fun delivery listed => ?_
  rw [Desk.payloads_jobs] at listed
  obtain ⟨⟨name, listener⟩, _, rfl⟩ := List.mem_map.mp listed
  cases listener <;> rfl

end Listeners

end Switchboard

/-
**What calls submit tells what they do.**

* `Layered.submitted_features`, `Layered.submitted_properties` — a call in all layers submits its notices if
  it succeeds, and nothing if it fails.
* `Layered.Told` — the notices that were submitted, replayed on the store as it was, give the store as it is.
  This holds of every call (`Layered.told_features`, `Layered.told_properties`).
-/

import Switchboard.Proofs.Layered.StaleCopies
import Switchboard.Proofs.Notices.Replay
import Switchboard.Proofs.Repository.Leads

namespace Switchboard

open Act

namespace Backend

/-- The members of a group that were read are those that are stored. -/
theorem readGroup_eq_ok {moment : Moment} (backend : Backend Feature) {group : String}
    {members : List Feature}
    (read : ((Repository.features handle (.readGroup group)).perform moment backend).1 = .ok members) :
    members = backend.store.toList.filter fun feature => feature.inGroup group := by
  rcases features_answers.cases (.readGroup group) moment backend with
    ⟨_, outcome, _⟩ | ⟨_, ⟨fault, refused⟩, _⟩
  · rw [outcome] at read
    exact Repository.members_eq_ok read
  · rw [refused] at read
    cases read

/-- A property that was fetched is the one that is stored. -/
theorem fetch_eq_ok {E : Type} [Entity E] {moment : Moment} (backend : Backend E) {id : String} {entity : E}
    (fetched : ((handle (.fetch id)).perform moment backend).1 = .ok entity) :
    backend.store.find? id = some entity := by
  cases online : backend.online with
  | false =>
    rw [perform_handle_offline online] at fetched
    cases fetched
  | true =>
    rw [perform_handle_online online, Repository.perform_fetch] at fetched
    unfold found at fetched
    split at fetched
    next kept stored =>
      cases fetched
      exact stored
    · cases fetched

end Backend

namespace Layered

/-! ### What a call submits -/

theorem features_all :
    features allLayers = Notifying.features (Caching.features (Repository.features Backend.handle)) := rfl

theorem properties_all : properties allLayers =
    Notifying.properties (Caching.properties (Repository.properties Backend.handle)) := rfl

/-- A read that may be answered from a copy leaves the store and the notices as they were. -/
theorem copy_untold {E N : Type} [Entity E] (notice : StoreNotice E → N) (moment : Moment)
    (layered : Layered E N) {call : StoreCall E} (copy : call.FromCopy) :
    let after : Layered E N :=
      ((Notifying.store notice (Caching.store Backend.handle) call).perform moment layered).2
    after.backend.store = layered.backend.store ∧ after.submitted = layered.submitted := by
  cases call with
  | find id => exact ⟨(Caching.below_find moment layered.below id).1, rfl⟩
  | read id =>
    have kept := (Caching.below_find moment layered.below id).1
    unfold Notifying.store
    dsimp only
    rw [perform_bind, Notified.perform_under]
    cases ((Caching.store Backend.handle (.find id)).perform moment layered.below).1 with
    | error fault => exact ⟨kept, rfl⟩
    | ok value =>
      dsimp only
      rw [perform_lift]
      exact ⟨kept, rfl⟩
  | _ => exact False.elim copy

/-- A call that may be answered from a copy is a read. -/
theorem read_of_copy {E : Type} {call : StoreCall E} (copy : call.FromCopy) : call.isWrite = false := by
  cases call with
  | find id | read id => rfl
  | _ => exact False.elim copy

section Features

variable {moment : Moment} {layered : Layered Feature FeatureNotice}

theorem submitted_setGroupEnabled (moment : Moment) (layered : Layered Feature FeatureNotice)
    (group : String) (enabled : Bool) :
    let call := FeatureCall.setGroupEnabled group enabled
    ((features allLayers call).perform moment layered).2.submitted = layered.submitted ++
      Notified.reported (call.notices (call.listed layered.backend.store))
        ((features allLayers call).perform moment layered).1 := by
  intro call
  rw [features_all]
  unfold call Notifying.features
  dsimp only
  rw [perform_bind, Notified.perform_under]
  cases read : ((Caching.features (Repository.features Backend.handle) (.readGroup group)).perform moment
      layered.below).1 with
  | error fault => exact (List.append_nil _).symm
  | ok members =>
    have listed : members = layered.backend.store.toList.filter fun feature => feature.inGroup group :=
      Backend.readGroup_eq_ok layered.backend read
    dsimp only
    rw [Notified.perform_reported, listed]
    rfl

/-- **What a call of features submits.** -/
theorem submitted_features (moment : Moment) (layered : Layered Feature FeatureNotice) (call : FeatureCall) :
    ((features allLayers call).perform moment layered).2.submitted = layered.submitted ++
      Notified.reported (call.notices (call.listed layered.backend.store))
        ((features allLayers call).perform moment layered).1 := by
  have reported : (∀ id, call ≠ .store (.read id)) →
      (∀ group enabled, call ≠ .setGroupEnabled group enabled) →
      ((features allLayers call).perform moment layered).2.submitted = layered.submitted ++
        Notified.reported (call.notices []) ((features allLayers call).perform moment layered).1 := by
    intro whole single
    rw [features_all, Notifying.reports_features _ whole single moment layered]
  cases call with
  | store call =>
    by_cases copy : call.FromCopy
    · have untold := (copy_untold FeatureNotice.store moment layered copy).2
      have read : (FeatureCall.store call).isWrite = false := read_of_copy copy
      rw [FeatureCall.notices_of_read read, Notified.reported_nil, List.append_nil]
      exact untold
    · refine reported (fun id same => copy ?_) (fun _ _ => nofun)
      cases same
      trivial
  | setGroupEnabled group enabled => exact submitted_setGroupEnabled moment layered group enabled
  | setEnabled | addToGroup | removeFromGroup => exact reported (fun _ => nofun) fun _ _ => nofun
  | hasGroup | readGroup | groups => exact reported (fun _ => nofun) fun _ _ => nofun

end Features

section Properties

theorem submitted_setValue (moment : Moment) (layered : Layered Property PropertyNotice)
    (id raw : String) :
    let call := PropertyCall.setValue id raw
    ((properties allLayers call).perform moment layered).2.submitted = layered.submitted ++
      Notified.reported
        (call.notices (call.kept ((properties allLayers call).perform moment layered).2.backend.store))
        ((properties allLayers call).perform moment layered).1 := by
  intro call
  have passed := Caching.passed_properties (Repository.properties Backend.handle)
    (fun copy : PropertyCall.FromCopy (.setValue id raw) => copy) moment layered.below
  rw [properties_all]
  unfold call Notifying.properties
  dsimp only
  rw [perform_bind, Notified.perform_under, passed]
  dsimp only
  cases set : ((Repository.properties Backend.handle (.setValue id raw)).perform moment
      layered.below.below).1 with
  | error fault => exact (List.append_nil _).symm
  | ok done =>
    obtain ⟨property, fetched⟩ := Backend.fetch_after_setValue set
    let changed := ((Repository.properties Backend.handle (.setValue id raw)).perform moment
      layered.below.below).2
    have stored : changed.store.find? id = some property := Backend.fetch_eq_ok changed fetched
    have kept : ((Backend.handle (.fetch id)).perform moment changed).2.store = changed.store :=
      (Backend.alike_fetch moment changed id).1
    have fetching : ∀ cache : Cache Property,
        (Caching.properties (Repository.properties Backend.handle) (.store (.fetch id))).perform moment
          { cache, below := changed } =
        (.ok property, { cache, below := ((Backend.handle (.fetch id)).perform moment changed).2 }) := by
      intro cache
      exact Prod.ext fetched rfl
    dsimp only
    rw [perform_bind, Notified.perform_under, fetching]
    show _ = layered.submitted ++ (Option.toList
      (((Backend.handle (.fetch id)).perform moment changed).2.store.find? id)).map StoreNotice.updated
    rw [kept, stored]
    rfl

/-- **What a call of properties submits.** -/
theorem submitted_properties (moment : Moment) (layered : Layered Property PropertyNotice)
    (call : PropertyCall) :
    ((properties allLayers call).perform moment layered).2.submitted = layered.submitted ++
      Notified.reported
        (call.notices (call.kept ((properties allLayers call).perform moment layered).2.backend.store))
        ((properties allLayers call).perform moment layered).1 := by
  cases call with
  | setValue id raw => exact submitted_setValue moment layered id raw
  | store call =>
    rw [PropertyCall.notices]
    by_cases copy : call.FromCopy
    · have untold := (copy_untold (id : PropertyNotice → PropertyNotice) moment layered copy).2
      rw [StoreCall.notices_of_read (read_of_copy copy), Notified.reported_nil, List.append_nil]
      exact untold
    · have whole : ∀ id, call ≠ .read id := by
        rintro id rfl
        exact copy trivial
      rw [properties_all, Notifying.reports_properties _ whole moment layered]

end Properties

/-! ### Notices that tell of the store -/

section Told

variable {E N α : Type} [Entity E] {replay : Store E → N → Store E}

/-- The notices that were submitted on the way, replayed on the store as it was, give the store as it is, but
for timestamps. -/
def Told (replay : Store E → N → Store E) (before after : Layered E N) : Prop :=
  before.backend.store.Keyed → after.backend.store.Keyed ∧
    ∃ notices, after.submitted = before.submitted ++ notices ∧
      (notices.foldl replay before.backend.store).SameButStamps after.backend.store

theorem Told.of_same {before after : Layered E N} (store : after.backend.store = before.backend.store)
    (submitted : after.submitted = before.submitted) : Told replay before after := by
  intro keyed
  rw [store, submitted]
  exact ⟨keyed, [], (List.append_nil _).symm, .refl _⟩

theorem Told.refl (layered : Layered E N) : Told replay layered layered := .of_same rfl rfl

theorem Told.trans (keeps : ∀ {first second : Store E}, first.SameButStamps second → ∀ notice,
      (replay first notice).SameButStamps (replay second notice))
    (first second third : Layered E N) (early : Told replay first second)
    (late : Told replay second third) : Told replay first third := by
  intro keyed
  obtain ⟨keyed, notices, submitted, same⟩ := early keyed
  obtain ⟨keyed, others, submittedLater, sameLater⟩ := late keyed
  refine ⟨keyed, notices ++ others, ?_, ?_⟩
  · rw [submittedLater, submitted, List.append_assoc]
  · rw [List.foldl_append]
    exact (Store.same_foldl keeps same others).trans sameLater

omit [Entity E] in
/-- An action in layers ends as on the store, or it is refused and leaves the store as it was. -/
theorem answered_cases {C : Type} {Reply : C → Type} {plain : Handler Reply (Backend E)}
    {kept : Handler Reply (Store E)} (answers : Backend.Answers plain kept) {call : C}
    {action : Act (Layered E N) (Reply call)} (agrees : Agree Over action (plain call)) (moment : Moment)
    (layered : Layered E N) :
    ((action.perform moment layered).1 = ((kept call).perform moment layered.backend.store).1 ∧
        (action.perform moment layered).2.backend.store =
          ((kept call).perform moment layered.backend.store).2) ∨
      ((∃ fault, (action.perform moment layered).1 = .error fault) ∧
        (action.perform moment layered).2.backend.store = layered.backend.store) := by
  obtain ⟨outcome, store, _⟩ := agrees moment layered layered.backend ⟨rfl, rfl⟩
  rw [outcome, store]
  rcases answers.cases call moment layered.backend with ⟨_, same, serves⟩ | ⟨_, refused, withholds⟩
  · exact .inl ⟨same, serves.2⟩
  · exact .inr ⟨refused, withholds.2⟩

/-- **An action in layers tells of the store** if it submits what tells of the same action on the store. -/
theorem told_of_answered {C : Type} {Reply : C → Type} {plain : Handler Reply (Backend E)}
    {kept : Handler Reply (Store E)} (answers : Backend.Answers plain kept) {call : C}
    {action : Act (Layered E N) (Reply call)} (agrees : Agree Over action (plain call)) {moment : Moment}
    {layered : Layered E N} (notices : Store E → List N)
    (submitted : (action.perform moment layered).2.submitted = layered.submitted ++
      Notified.reported (notices (action.perform moment layered).2.backend.store)
        (action.perform moment layered).1)
    (tells : layered.backend.store.Keyed →
      let (outcome, after) := (kept call).perform moment layered.backend.store
      after.Keyed ∧ ((Notified.reported (notices after) outcome).foldl replay
        layered.backend.store).SameButStamps after) :
    Told replay layered (action.perform moment layered).2 := by
  intro keyed
  rcases answered_cases answers agrees moment layered with
    ⟨outcome, store⟩ | ⟨⟨fault, refused⟩, store⟩
  · obtain ⟨after, same⟩ := tells keyed
    rw [outcome, store] at submitted
    rw [store]
    exact ⟨after, _, submitted, same⟩
  · rw [refused] at submitted
    rw [store]
    exact ⟨keyed, _, submitted, .refl _⟩

end Told

/-- **The notices of a call of features tell what it does to the store.** -/
theorem told_features (call : FeatureCall) :
    Leads (Told FeatureNotice.replay) (features allLayers call) := by
  intro moment layered
  by_cases copy : call.FromCopy
  · cases call with
    | store call =>
      obtain ⟨store, submitted⟩ := copy_untold FeatureNotice.store moment layered copy
      exact .of_same store submitted
    | _ => exact False.elim copy
  · refine told_of_answered Backend.features_answers (features_over allLayers copy)
      (fun _ => call.notices (call.listed layered.backend.store)) (submitted_features moment layered call) ?_
    intro keyed
    exact ⟨Repository.keyed_features keyed call, Repository.same_features moment keyed call⟩

/-- **The notices of a call of properties tell what it does to the store.** -/
theorem told_properties (call : PropertyCall) :
    Leads (Told StoreNotice.replay) (properties allLayers call) := by
  intro moment layered
  by_cases copy : call.FromCopy
  · cases call with
    | store call =>
      obtain ⟨store, submitted⟩ :=
        copy_untold (id : PropertyNotice → PropertyNotice) moment layered copy
      exact .of_same store submitted
    | setValue id raw => exact False.elim copy
  · refine told_of_answered Backend.properties_answers (properties_over allLayers copy)
      (fun after => call.notices (call.kept after)) (submitted_properties moment layered call) ?_
    intro keyed
    exact ⟨Repository.keyed_properties keyed call, Repository.same_properties moment keyed call⟩

end Layered

end Switchboard

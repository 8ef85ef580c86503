/-
**Backends.**

* `Backend.Alike` — two backends differ at most in their counters; they answer every call alike.
* `Backend.Serves` — an online backend and the store it keeps; they answer every call alike.
* `Backend.Answers` — every call is answered as the store answers it, or it is refused and the store left
  as it was; `Backend.features_orderly`, `Backend.properties_orderly` — what follows for the store.
-/

import Switchboard.Proofs.Repository.Agree
import Switchboard.Proofs.Repository.Content
import Switchboard.Repository.Backend

namespace Switchboard

open Act

/-! ### Actions that are refused -/

/-- An action fails and keeps what holds of the state. -/
def Act.Refused {σ α : Type} (kept : σ → Prop) (action : Act σ α) : Prop :=
  ∀ moment state, kept state →
    (∃ fault, (action.perform moment state).1 = .error fault) ∧ kept (action.perform moment state).2

namespace Act.Refused

variable {σ α β : Type} {kept : σ → Prop}

theorem bind {action : Act σ α} (refused : Refused kept action) (next : α → Act σ β) :
    Refused kept (action >>= next) := by
  intro moment state start
  obtain ⟨⟨fault, fails⟩, finish⟩ := refused moment state start
  rw [perform_bind_error fails]
  exact ⟨⟨fault, rfl⟩, finish⟩

theorem lift_bind (outcome : Except Fault α) {next : α → Act σ β}
    (refused : ∀ value, Refused kept (next value)) : Refused kept (lift outcome >>= next) := by
  intro moment state start
  rw [perform_bind, perform_lift]
  cases outcome with
  | ok value => exact refused value moment state start
  | error fault => exact ⟨⟨fault, rfl⟩, start⟩

end Act.Refused

namespace Repository

variable {E σ : Type} {kept : σ → Prop}

theorem features_refused {store : StoreHandler Feature σ} (refused : ∀ call, Refused kept (store call))
    (call : FeatureCall) : Refused kept (features store call) := by
  have changing : ∀ id change, Refused kept (changing store id change) := fun id change =>
    (refused (.fetch id)).bind _
  have listing : ∀ group, Refused kept (members store group) := fun group => (refused .all).bind _
  cases call with
  | store call => exact refused call
  | setEnabled id enabled => exact changing id _
  | addToGroup id group => exact Refused.lift_bind _ fun _ => changing id _
  | removeFromGroup id group => exact changing id _
  | hasGroup group => exact (refused .all).bind _
  | readGroup group => exact listing group
  | groups => exact (refused .all).bind _
  | setGroupEnabled group enabled => exact (listing group).bind _

theorem properties_refused {store : StoreHandler Property σ}
    (refused : ∀ call, Refused kept (store call)) (call : PropertyCall) :
    Refused kept (properties store call) := by
  cases call with
  | store call => exact refused call
  | setValue id raw => exact (refused (.fetch id)).bind _

end Repository

/-! ### Backends that answer alike -/

namespace Backend

section Handle

variable {E : Type} {moment : Moment}

/-- Two backends keep the same and are both online or both offline. -/
def Alike (left right : Backend E) : Prop := left.store = right.store ∧ left.online = right.online

/-- A backend is online and keeps what a store keeps. -/
def Serves (backend : Backend E) (store : Store E) : Prop :=
  backend.online = true ∧ backend.store = store

/-- A backend is offline and keeps what a store keeps. -/
def Withholds (store : Store E) (backend : Backend E) : Prop :=
  backend.online = false ∧ backend.store = store

@[simp]
theorem store_counted (backend : Backend E) (call : StoreCall E) :
    (backend.counted call).store = backend.store := by
  cases call <;> rfl

@[simp]
theorem online_counted (backend : Backend E) (call : StoreCall E) :
    (backend.counted call).online = backend.online := by
  cases call <;> rfl

variable [Entity E]

theorem perform_handle_online {backend : Backend E} (online : backend.online = true)
    (call : StoreCall E) :
    (handle call).perform moment backend =
      (((Store.handle call).perform moment backend.store).1,
        { backend.counted call with
          store := ((Store.handle call).perform moment backend.store).2 }) := by
  simp only [handle, perform_bind, perform_modify, perform_get, online_counted, online, Bool.not_true,
    Bool.false_eq_true, if_false, perform_onPart, store_counted]

theorem perform_handle_offline {backend : Backend E} (offlineNow : backend.online = false)
    (call : StoreCall E) :
    (handle call).perform moment backend = (.error offline, backend.counted call) := by
  simp only [handle, perform_bind, perform_modify, perform_get, online_counted, offlineNow,
    Bool.not_false, if_true, perform_throw]

theorem handle_serves (call : StoreCall E) :
    Agree Serves (handle call) (Store.handle call) := by
  rintro moment backend store ⟨online, rfl⟩
  rw [perform_handle_online online]
  exact ⟨rfl, (online_counted backend call).trans online, rfl⟩

theorem handle_refused (store : Store E) (call : StoreCall E) :
    Refused (Withholds store) (handle call) := by
  rintro moment backend ⟨offlineNow, rfl⟩
  rw [perform_handle_offline offlineNow]
  exact ⟨⟨offline, rfl⟩, (online_counted backend call).trans offlineNow, store_counted backend call⟩

theorem handle_alike (call : StoreCall E) : Agree Alike (handle call) (handle call) := by
  rintro moment left right ⟨same, online⟩
  cases state : left.online with
  | true =>
    rw [perform_handle_online state, perform_handle_online (online.symm.trans state), same]
    refine ⟨rfl, rfl, ?_⟩
    rw [online_counted, online_counted, online]
  | false =>
    rw [perform_handle_offline state, perform_handle_offline (online.symm.trans state)]
    refine ⟨rfl, ?_, ?_⟩
    · rw [store_counted, store_counted, same]
    · rw [online_counted, online_counted, online]

end Handle

/-! ### What a call does to the store -/

section Answers

variable {E C : Type} [Entity E] {Reply : C → Type} {kept : Handler Reply (Store E)}
  {plain : Handler Reply (Backend E)}

/-- Every call on a backend is answered as on its store while it is online, and refused otherwise. -/
structure Answers (plain : Handler Reply (Backend E)) (kept : Handler Reply (Store E)) : Prop where
  online : ∀ call, Agree Serves (plain call) (kept call)
  offline : ∀ store call, Refused (Withholds store) (plain call)

omit [Entity E] in
/-- **A call is answered as the store answers it, or refused.** -/
theorem Answers.cases (answers : Answers plain kept) (call : C) (moment : Moment)
    (backend : Backend E) :
    (backend.online = true ∧
        ((plain call).perform moment backend).1 = ((kept call).perform moment backend.store).1 ∧
        Serves ((plain call).perform moment backend).2
          ((kept call).perform moment backend.store).2) ∨
      (backend.online = false ∧ (∃ fault, ((plain call).perform moment backend).1 = .error fault) ∧
        Withholds backend.store ((plain call).perform moment backend).2) := by
  cases online : backend.online with
  | true => exact .inl ⟨rfl, answers.online call moment backend _ ⟨online, rfl⟩⟩
  | false => exact .inr ⟨rfl, answers.offline _ call moment backend ⟨online, rfl⟩⟩

omit [Entity E] in
theorem Answers.online_perform (answers : Answers plain kept) (call : C) (moment : Moment)
    (backend : Backend E) :
    ((plain call).perform moment backend).2.online = backend.online := by
  rcases answers.cases call moment backend with ⟨online, _, serves⟩ | ⟨online, _, withholds⟩
  · rw [serves.1, online]
  · rw [withholds.1, online]

/-- **Calls that are orderly on a store are orderly on a backend.** -/
theorem Answers.orderly (answers : Answers plain kept) {alters : C → String → Prop}
    (orderly : Handler.Orderly id alters kept) : Handler.Orderly Backend.store alters plain where
  keyed call moment backend keyed := by
    rcases answers.cases call moment backend with ⟨_, _, serves⟩ | ⟨_, _, withholds⟩
    · rw [serves.2]
      exact orderly.keyed call moment _ keyed
    · rw [withholds.2]
      exact keyed
  frame call moment backend id keyed other := by
    rcases answers.cases call moment backend with ⟨_, _, serves⟩ | ⟨_, _, withholds⟩
    · rw [serves.2]
      exact orderly.frame call moment _ id keyed other
    · rw [withholds.2]
  error call moment backend fault fails := by
    rcases answers.cases call moment backend with ⟨_, same, serves⟩ | ⟨_, _, withholds⟩
    · rw [same] at fails
      rw [serves.2]
      exact orderly.error call moment _ fault fails
    · exact withholds.2

end Answers

theorem features_answers :
    Answers (Repository.features handle) (Repository.features Store.handle) where
  online := Repository.features_agree handle_serves
  offline store := Repository.features_refused (handle_refused store)

theorem properties_answers :
    Answers (Repository.properties handle) (Repository.properties Store.handle) where
  online := Repository.properties_agree handle_serves
  offline store := Repository.properties_refused (handle_refused store)

theorem features_orderly :
    Handler.Orderly Backend.store FeatureCall.Alters (Repository.features handle) :=
  features_answers.orderly Repository.features_orderly

theorem properties_orderly :
    Handler.Orderly Backend.store PropertyCall.Alters (Repository.properties handle) :=
  properties_answers.orderly Repository.properties_orderly

/-! ### Reads and what they find -/

theorem alike_fetch {E : Type} [Entity E] (moment : Moment) (backend : Backend E) (id : String) :
    Alike ((handle (.fetch id)).perform moment backend).2 backend := by
  cases online : backend.online with
  | true =>
    rw [perform_handle_online online, Repository.perform_fetch]
    exact ⟨rfl, online_counted _ _⟩
  | false =>
    rw [perform_handle_offline online]
    exact ⟨store_counted _ _, online_counted _ _⟩

theorem alike_readGroup (moment : Moment) (backend : Backend Feature) (group : String) :
    Alike ((Repository.features handle (.readGroup group)).perform moment backend).2
      backend := by
  refine ⟨?_, features_answers.online_perform _ moment backend⟩
  rcases features_answers.cases (.readGroup group) moment backend with
    ⟨_, _, serves⟩ | ⟨_, _, withholds⟩
  · rw [serves.2, Repository.perform_readGroup_snd]
  · exact withholds.2

/-- A property that was set can be fetched. -/
theorem fetch_after_setValue {moment : Moment} {backend : Backend Property} {id raw : String}
    {done : Unit}
    (succeeds : ((Repository.properties handle (.setValue id raw)).perform moment backend).1 =
      .ok done) :
    ∃ property, ((handle (.fetch id)).perform moment
      ((Repository.properties handle (.setValue id raw)).perform moment backend).2).1 =
        .ok property := by
  rcases properties_answers.cases (.setValue id raw) moment backend with
    ⟨_, outcome, online, store⟩ | ⟨_, ⟨fault, refused⟩, _⟩
  · rw [perform_handle_online online, store]
    rw [outcome] at succeeds
    rcases Repository.changing_cases moment backend.store id
        (fun property now => property.withValueRead now raw) with
      ⟨fault, fails⟩ | ⟨entity, changed, kept, _, previous, _, replaced⟩
    · have failed : ((Repository.properties Store.handle (.setValue id raw)).perform moment
        backend.store).1 = .error fault := congrArg Prod.fst fails
      rw [failed] at succeeds
      cases succeeds
    · have after : ((Repository.properties Store.handle (.setValue id raw)).perform moment
          backend.store).2 = backend.store.insert (Store.restamp moment.wall changed previous) :=
        congrArg Prod.snd replaced
      rw [after, Repository.perform_fetch, Store.find?_insert]
      split
      · exact ⟨_, rfl⟩
      · rw [kept]
        exact ⟨entity, rfl⟩
  · rw [refused] at succeeds
    cases succeeds

end Backend

end Switchboard

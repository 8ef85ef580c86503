/-
**Calls behind a cache.**

* `StoreCall.FromCopy`, `FeatureCall.FromCopy`, `PropertyCall.FromCopy` — the calls that may be answered
  from a copy: `find` and `read`.
* `Caching.Passed` — any other call is answered below, and if it succeeds the cache is settled: what the
  call may have altered goes, a created entity comes.
* `Caching.find_cases` — a copy is found alive, or the store is asked, or the store is offline.
* `Caching.Traced` — after a call behind a cache every entry is an old one that the call did not alter,
  or was put by this call and holds what the store holds then.
-/

import Switchboard.Proofs.Cache.Entries
import Switchboard.Proofs.Repository.Backend
import Switchboard.Repository.Caching

namespace Switchboard

open Act

/-- A call may be answered from a copy. -/
def StoreCall.FromCopy {E : Type} : StoreCall E → Prop
  | find _ | read _ => True
  | has _ | fetch _ | all | create _ | update _ | delete _ | save _ | deleteAll | count | prepare => False

/-- A call may be answered from a copy. -/
def FeatureCall.FromCopy : FeatureCall → Prop
  | store call => call.FromCopy
  | setEnabled _ _ | addToGroup _ _ | removeFromGroup _ _ | hasGroup _ | readGroup _ | groups
  | setGroupEnabled _ _ => False

/-- A call may be answered from a copy. -/
def PropertyCall.FromCopy : PropertyCall → Prop
  | store call => call.FromCopy
  | setValue _ _ => False

namespace Cached

variable {E σ α : Type} {moment : Moment} {cached : Cached E σ}

@[simp]
theorem perform_under (action : Act σ α) :
    (under action).perform moment cached =
      ((action.perform moment cached.below).1,
        { cached with below := (action.perform moment cached.below).2 }) := rfl

@[simp]
theorem perform_change (alter : Nat → Cache E → Cache E) :
    (change alter).perform moment cached =
      (.ok (), { cached with cache := alter moment.clock cached.cache }) := rfl

@[simp]
theorem perform_lookUp (key : String) :
    (lookUp key).perform moment cached =
      (.ok (cached.cache.get moment.clock key).1,
        { cached with cache := (cached.cache.get moment.clock key).2 }) := rfl

end Cached

namespace Caching

open Cached

/-! ### Calls that are answered below -/

section Passed

variable {E σ α : Type}

/-- The cache after an outcome: settled if there was a result, as it was if there was a fault. -/
def settledBy (settle : Cache E → Cache E) (cache : Cache E) : Except Fault α → Cache E
  | .ok _ => settle cache
  | .error _ => cache

/-- An action is answered below, and if it succeeds, the cache is settled. -/
def Passed (settle : Nat → Cache E → Cache E) (above : Act (Cached E σ) α) (below : Act σ α) : Prop :=
  ∀ moment cached, above.perform moment cached =
    ((below.perform moment cached.below).1,
      { cache := settledBy (settle moment.clock) cached.cache (below.perform moment cached.below).1
        below := (below.perform moment cached.below).2 })

theorem passed_under (action : Act σ α) :
    Passed (fun _ cache => cache) (under (E := E) action) action := by
  intro moment cached
  rw [perform_under]
  cases (action.perform moment cached.below).1 <;> rfl

theorem passed_change (settle : Nat → Cache E → Cache E) (action : Act σ Unit) :
    Passed settle (do under action; change settle) action := by
  intro moment cached
  rw [perform_bind, perform_under]
  cases (action.perform moment cached.below).1 <;> rfl

end Passed

section Settle

variable {E σ : Type} [Entity E]

/-- What a call that succeeded does to the cache. -/
def settle (clock : Nat) (cache : Cache E) : StoreCall E → Cache E
  | .create entity => cache.put clock (Entity.id entity) entity none
  | .update entity => cache.evict (Entity.id entity)
  | .delete id => cache.evict id
  | .save _ | .deleteAll => cache.clear
  | .has _ | .find _ | .read _ | .fetch _ | .all | .count | .prepare => cache

/-- What a call that succeeded does to the cache. -/
def settleFeatures (clock : Nat) (cache : Cache Feature) : FeatureCall → Cache Feature
  | .store call => settle clock cache call
  | .setEnabled id _ | .addToGroup id _ | .removeFromGroup id _ => cache.evict id
  | .setGroupEnabled _ _ => cache.clear
  | .hasGroup _ | .readGroup _ | .groups => cache

/-- What a call that succeeded does to the cache. -/
def settleProperties (clock : Nat) (cache : Cache Property) : PropertyCall → Cache Property
  | .store call => settle clock cache call
  | .setValue id _ => cache.evict id

theorem passed_store (inner : StoreHandler E σ) {call : StoreCall E} (answered : ¬call.FromCopy) :
    Passed (fun clock cache => settle clock cache call) (store inner call) (inner call) := by
  cases call with
  | find id | read id => exact absurd trivial answered
  | create entity => exact passed_change _ _
  | update entity => exact passed_change _ _
  | delete id => exact passed_change _ _
  | save entities => exact passed_change _ _
  | deleteAll => exact passed_change _ _
  | has id => exact passed_under _
  | fetch id => exact passed_under _
  | all => exact passed_under _
  | count => exact passed_under _
  | prepare => exact passed_under _

theorem passed_features (inner : FeatureHandler σ) {call : FeatureCall} (answered : ¬call.FromCopy) :
    Passed (fun clock cache => settleFeatures clock cache call) (features inner call) (inner call) := by
  cases call with
  | store call => exact passed_store (fun call => inner (.store call)) answered
  | setEnabled id enabled => exact passed_change _ _
  | addToGroup id group => exact passed_change _ _
  | removeFromGroup id group => exact passed_change _ _
  | setGroupEnabled group enabled => exact passed_change _ _
  | hasGroup group => exact passed_under _
  | readGroup group => exact passed_under _
  | groups => exact passed_under _

theorem passed_properties (inner : PropertyHandler σ) {call : PropertyCall}
    (answered : ¬call.FromCopy) :
    Passed (fun clock cache => settleProperties clock cache call) (properties inner call)
      (inner call) := by
  cases call with
  | store call => exact passed_store (fun call => inner (.store call)) answered
  | setValue id raw => exact passed_change _ _

end Settle

/-! ### Single reads -/

section Find

variable {E : Type} [Entity E] {moment : Moment} {cached : Cached E (Backend E)} {id : String}

/-- The cache after a look-up in the store: what was found is kept. -/
def keeping (clock : Nat) (cache : Cache E) (id : String) : Option E → Cache E
  | some entity => cache.put clock id entity none
  | none => cache

/-- **A single read** finds a copy that is alive, or asks the store and keeps what it finds, or is refused
because the store is offline. -/
theorem find_cases (moment : Moment) (cached : Cached E (Backend E)) (id : String) :
    (∃ entry, cached.cache.entries[id]? = some entry ∧
        moment.clock - entry.insertedAt < entry.lifetime ∧
        (find Backend.handle id).perform moment cached =
          (.ok (some entry.value), { cached with cache := (cached.cache.get moment.clock id).2 })) ∨
      (cached.below.online = true ∧
        (find Backend.handle id).perform moment cached =
          (.ok (cached.below.store.find? id),
            { cache := keeping moment.clock (cached.cache.get moment.clock id).2 id
                (cached.below.store.find? id)
              below := cached.below.counted (.find id) })) ∨
      (cached.below.online = false ∧
        (find Backend.handle id).perform moment cached =
          (.error Backend.offline,
            { cache := (cached.cache.get moment.clock id).2
              below := cached.below.counted (.find id) })) := by
  unfold find
  rw [perform_bind, perform_lookUp]
  cases copy : (cached.cache.get moment.clock id).1 with
  | some value =>
    obtain ⟨entry, held, alive, rfl⟩ := Cache.get_eq_some copy
    exact .inl ⟨entry, held, alive, rfl⟩
  | none =>
    refine .inr ?_
    dsimp only
    rw [perform_bind, perform_under]
    cases online : cached.below.online with
    | false =>
      refine .inr ⟨rfl, ?_⟩
      rw [Backend.perform_handle_offline online]
    | true =>
      refine .inl ⟨rfl, ?_⟩
      rw [Backend.perform_handle_online online]
      have asked : (Store.handle (.find id)).perform moment cached.below.store =
        (.ok (cached.below.store.find? id), cached.below.store) := rfl
      rw [asked]
      cases cached.below.store.find? id <;> rfl

/-- A single read leaves the store and its state as they were. -/
theorem below_find (moment : Moment) (cached : Cached E (Backend E)) (id : String) :
    ((find Backend.handle id).perform moment cached).2.below.store = cached.below.store ∧
      ((find Backend.handle id).perform moment cached).2.below.online = cached.below.online := by
  rcases find_cases moment cached id with ⟨entry, _, _, hit⟩ | ⟨online, loaded⟩ | ⟨offline, refused⟩
  · rw [hit]
    exact ⟨rfl, rfl⟩
  · rw [loaded]
    exact ⟨Backend.store_counted _ _, Backend.online_counted _ _⟩
  · rw [refused]
    exact ⟨Backend.store_counted _ _, Backend.online_counted _ _⟩

theorem perform_read (moment : Moment) (cached : Cached E (Backend E)) (id : String) :
    (store Backend.handle (.read id)).perform moment cached =
      (((find Backend.handle id).perform moment cached).1 >>= found id,
        ((find Backend.handle id).perform moment cached).2) := by
  unfold store
  rw [perform_bind]
  cases ((find Backend.handle id).perform moment cached).1 with
  | ok value =>
    dsimp only
    rw [perform_lift]
    rfl
  | error fault => rfl

end Find

/-! ### Where entries come from -/

section Traced

variable {E α : Type}

/-- After an action every entry is an old one, which the action did not alter if it succeeded, or was put
by the action and holds what the store holds then. -/
structure Traced (alters : String → Prop) (action : Act (Cached E (Backend E)) α) : Prop where
  lifetime : ∀ moment cached,
    (action.perform moment cached).2.cache.lifetime = cached.cache.lifetime
  entry : ∀ moment cached (id : String) (entry : CacheEntry E),
    (action.perform moment cached).2.cache.entries[id]? = some entry →
      (cached.cache.entries[id]? = some entry ∧
          ((∃ value, (action.perform moment cached).1 = .ok value) → ¬alters id)) ∨
        (entry.insertedAt = moment.clock ∧ entry.lifetime = cached.cache.lifetime ∧
          (action.perform moment cached).2.below.store.find? id = some entry.value)

/-- An action that is answered below is traced if every entry of a settled cache is an old one that the
action does not alter, or one that holds what the store holds then. -/
theorem Passed.traced {settle : Nat → Cache E → Cache E} {above : Act (Cached E (Backend E)) α}
    {below : Act (Backend E) α} {alters : String → Prop} (passed : Passed settle above below)
    (lasting : ∀ clock cache, (settle clock cache).lifetime = cache.lifetime)
    (settled : ∀ {moment : Moment} {cached : Cached E (Backend E)} {value : α} {id : String}
        {entry : CacheEntry E}, (below.perform moment cached.below).1 = .ok value →
      (settle moment.clock cached.cache).entries[id]? = some entry →
      (cached.cache.entries[id]? = some entry ∧ ¬alters id) ∨
        (entry.insertedAt = moment.clock ∧ entry.lifetime = cached.cache.lifetime ∧
          (below.perform moment cached.below).2.store.find? id = some entry.value)) :
    Traced alters above where
  lifetime moment cached := by
    rw [passed moment cached]
    cases (below.perform moment cached.below).1 with
    | ok value => exact lasting _ _
    | error fault => rfl
  entry moment cached id entry held := by
    rw [passed moment cached] at held ⊢
    cases outcome : (below.perform moment cached.below).1 with
    | ok value =>
      rw [outcome] at held
      exact (settled outcome held).imp_left fun ⟨old, other⟩ => ⟨old, fun _ => other⟩
    | error fault =>
      rw [outcome] at held
      exact .inl ⟨held, fun ⟨value, succeeds⟩ => nomatch succeeds⟩

theorem traced_untouched {above : Act (Cached E (Backend E)) α} {below : Act (Backend E) α}
    (passed : Passed (fun _ cache => cache) above below) : Traced (fun _ => False) above :=
  passed.traced (fun _ _ => rfl) fun _ held => .inl ⟨held, fun never => never⟩

theorem traced_forgotten {above : Act (Cached E (Backend E)) α} {below : Act (Backend E) α}
    {target : String} (passed : Passed (fun _ cache => cache.evict target) above below) :
    Traced (fun id => target = id) above :=
  passed.traced (fun _ _ => rfl) fun _ held => .inl (Cache.entry_of_evict held).symm

theorem traced_cleared {above : Act (Cached E (Backend E)) α} {below : Act (Backend E) α}
    (passed : Passed (fun _ cache => cache.clear) above below) : Traced (fun _ => True) above :=
  passed.traced (fun _ _ => rfl) fun _ held => absurd held Cache.not_held_clear

variable [Entity E]

theorem traced_find (id : String) : Traced (fun _ => False) (find (E := E) Backend.handle id) where
  lifetime moment cached := by
    rcases find_cases moment cached id with ⟨entry, _, _, hit⟩ | ⟨_, loaded⟩ | ⟨_, refused⟩
    · rw [hit]
      exact Cache.lifetime_get _ _ _
    · rw [loaded]
      cases cached.below.store.find? id with
      | some entity =>
        show (Cache.put _ _ _ _ _).lifetime = _
        rw [Cache.lifetime_put, Cache.lifetime_get]
      | none => exact Cache.lifetime_get _ _ _
    · rw [refused]
      exact Cache.lifetime_get _ _ _
  entry moment cached other entry held := by
    rcases find_cases moment cached id with ⟨copy, _, _, hit⟩ | ⟨_, loaded⟩ | ⟨_, refused⟩
    · rw [hit] at held
      exact .inl ⟨Cache.within_get _ _ _ _ _ held, fun _ never => never⟩
    · rw [loaded] at held ⊢
      cases stored : cached.below.store.find? id with
      | none =>
        rw [stored] at held
        exact .inl ⟨Cache.within_get _ _ _ _ _ held, fun _ never => never⟩
      | some entity =>
        rw [stored] at held
        rcases Cache.entry_of_put held with ⟨rfl, rfl⟩ | ⟨_, old⟩
        · refine .inr ⟨rfl, Cache.lifetime_get _ _ _, ?_⟩
          show (cached.below.counted (.find id)).store.find? id = some entity
          rw [Backend.store_counted, stored]
        · exact .inl ⟨Cache.within_get _ _ _ _ _ old, fun _ never => never⟩
    · rw [refused] at held
      exact .inl ⟨Cache.within_get _ _ _ _ _ held, fun _ never => never⟩

/-- A backend that creates an entity keeps it as it is. -/
theorem find?_created {moment : Moment} {backend : Backend E} {entity : E} {value : Unit}
    (created : ((Backend.handle (.create entity)).perform moment backend).1 = .ok value) :
    ((Backend.handle (.create entity)).perform moment backend).2.store.find? (Entity.id entity) =
      some entity := by
  cases online : backend.online with
  | false =>
    rw [Backend.perform_handle_offline online] at created
    cases created
  | true =>
    rw [Backend.perform_handle_online online] at created ⊢
    have changed : (Store.handle (.create entity)).perform moment backend.store = _ :=
      Store.perform_changing _
    rw [changed] at created ⊢
    cases inserted : backend.store.create entity with
    | error fault =>
      rw [inserted] at created
      cases created
    | ok after =>
      obtain ⟨_, _, rfl⟩ := Store.create_eq_ok inserted
      dsimp only
      rw [Store.find?_insert, if_pos rfl]

theorem traced_create (entity : E) :
    Traced (fun id => Entity.id entity = id) (store Backend.handle (.create entity)) := by
  have passed : Passed (fun clock cache => cache.put clock (Entity.id entity) entity none)
      (store Backend.handle (.create entity)) (Backend.handle (.create entity)) :=
    passed_change _ _
  refine passed.traced (fun _ _ => Cache.lifetime_put _ _ _ _ _) fun created held => ?_
  rcases Cache.entry_of_put held with ⟨rfl, rfl⟩ | ⟨other, old⟩
  · exact .inr ⟨rfl, rfl, find?_created created⟩
  · exact .inl ⟨old, other⟩

theorem traced_read (id : String) :
    Traced (fun _ => False) (store (E := E) Backend.handle (.read id)) where
  lifetime moment cached := by
    rw [perform_read]
    exact (traced_find id).lifetime moment cached
  entry moment cached other entry held := by
    rw [perform_read] at held ⊢
    refine ((traced_find id).entry moment cached other entry held).imp ?_ fun loaded => loaded
    exact fun ⟨old, _⟩ => ⟨old, fun _ never => never⟩

theorem traced_store (call : StoreCall E) : Traced call.Alters (store Backend.handle call) := by
  cases call with
  | create entity => exact traced_create entity
  | find id => exact traced_find id
  | read id => exact traced_read id
  | update entity => exact traced_forgotten (passed_change _ _)
  | delete id => exact traced_forgotten (passed_change _ _)
  | save entities => exact traced_cleared (passed_change _ _)
  | deleteAll => exact traced_cleared (passed_change _ _)
  | has id => exact traced_untouched (passed_under _)
  | fetch id => exact traced_untouched (passed_under _)
  | all => exact traced_untouched (passed_under _)
  | count => exact traced_untouched (passed_under _)
  | prepare => exact traced_untouched (passed_under _)

end Traced

/-- **The calls of features behind a cache are traced.** -/
theorem traced_features (call : FeatureCall) :
    Traced call.Alters (features (Repository.features Backend.handle) call) := by
  cases call with
  | store call => exact traced_store call
  | setEnabled id enabled => exact traced_forgotten (passed_change _ _)
  | addToGroup id group => exact traced_forgotten (passed_change _ _)
  | removeFromGroup id group => exact traced_forgotten (passed_change _ _)
  | setGroupEnabled group enabled => exact traced_cleared (passed_change _ _)
  | hasGroup group => exact traced_untouched (passed_under _)
  | readGroup group => exact traced_untouched (passed_under _)
  | groups => exact traced_untouched (passed_under _)

/-- **The calls of properties behind a cache are traced.** -/
theorem traced_properties (call : PropertyCall) :
    Traced call.Alters (properties (Repository.properties Backend.handle) call) := by
  cases call with
  | store call => exact traced_store call
  | setValue id raw => exact traced_forgotten (passed_change _ _)

/-! ### The store below -/

section Below

variable {E : Type} [Entity E]

/-- An action behind a cache is answered below, or leaves the store and its state as they were. -/
def Transparent {α : Type} (above : Act (Cached E (Backend E)) α) (below : Act (Backend E) α) : Prop :=
  ∀ moment cached,
    ((above.perform moment cached).1 = (below.perform moment cached.below).1 ∧
        (above.perform moment cached).2.below = (below.perform moment cached.below).2) ∨
      ((above.perform moment cached).2.below.store = cached.below.store ∧
        (above.perform moment cached).2.below.online = cached.below.online)

omit [Entity E] in
theorem Passed.transparent {α : Type} {settle : Nat → Cache E → Cache E}
    {above : Act (Cached E (Backend E)) α} {below : Act (Backend E) α}
    (passed : Passed settle above below) : Transparent above below := by
  intro moment cached
  rw [passed moment cached]
  exact .inl ⟨rfl, rfl⟩

theorem transparent_store (call : StoreCall E) :
    Transparent (store Backend.handle call) (Backend.handle call) := by
  by_cases copy : call.FromCopy
  · intro moment cached
    cases call with
    | find id => exact .inr (below_find moment cached id)
    | read id =>
      rw [perform_read]
      exact .inr (below_find moment cached id)
    | _ => exact copy.elim
  · exact (passed_store _ copy).transparent

variable {C : Type} {Reply : C → Type} {alters : C → String → Prop}
  {decorated : Handler Reply (Cached E (Backend E))} {plain : Handler Reply (Backend E)}

/-- Calls that are orderly on a backend are orderly behind a cache. -/
theorem orderly_above (orderly : Handler.Orderly Backend.store alters plain)
    (transparent : ∀ call, Transparent (decorated call) (plain call)) :
    Handler.Orderly (fun cached => cached.below.store) alters decorated where
  keyed call moment cached keyed := by
    rcases transparent call moment cached with ⟨_, below⟩ | ⟨contents, _⟩
    · rw [below]
      exact orderly.keyed call moment _ keyed
    · rw [contents]
      exact keyed
  frame call moment cached id keyed other := by
    rcases transparent call moment cached with ⟨_, below⟩ | ⟨contents, _⟩
    · rw [below]
      exact orderly.frame call moment _ id keyed other
    · rw [contents]
  error call moment cached fault fails := by
    rcases transparent call moment cached with ⟨outcome, below⟩ | ⟨contents, _⟩
    · rw [outcome] at fails
      rw [below]
      exact orderly.error call moment _ fault fails
    · exact contents

omit [Entity E] in
/-- No call behind a cache takes a backend offline or online. -/
theorem online_above {kept : Handler Reply (Store E)} (answers : Backend.Answers plain kept)
    (transparent : ∀ call, Transparent (decorated call) (plain call)) (call : C) (moment : Moment)
    (cached : Cached E (Backend E)) :
    ((decorated call).perform moment cached).2.below.online = cached.below.online := by
  rcases transparent call moment cached with ⟨_, below⟩ | ⟨_, online⟩
  · rw [below]
    exact answers.online_perform call moment cached.below
  · exact online

end Below

theorem transparent_features (call : FeatureCall) :
    Transparent (features (Repository.features Backend.handle) call)
      (Repository.features Backend.handle call) := by
  cases call with
  | store call => exact transparent_store call
  | _ =>
    refine (passed_features _ ?_).transparent
    exact fun copy => copy

theorem transparent_properties (call : PropertyCall) :
    Transparent (properties (Repository.properties Backend.handle) call)
      (Repository.properties Backend.handle call) := by
  cases call with
  | store call => exact transparent_store call
  | setValue id raw =>
    refine (passed_properties _ ?_).transparent
    exact fun copy => copy

end Caching

end Switchboard

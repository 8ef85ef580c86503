/-
**Batches, one entity at a time.**

A batch is kept as a whole or not at all, and a batch that is kept leaves the store that its entities leave one
after the other. Which of them replace another one depends on those before them in the batch: an identifier
that is new at first may be kept by then.

* `Store.settle` — updates the entity under an identifier that is kept, and creates a new one.
* `Store.perform_settle` — this is `Store.upsert`, after a check of the one entity; so a batch of checked entities
  is settled as it is saved (`Store.perform_settleAll`).
* `Store.perform_save_eq` — a batch with a fault changes nothing, and its first fault is reported.
* `Store.ofList_eq_foldlM`, `Store.foldlM_create` — a store is made of a list by creating its entities.
* `Store.batches_go_one_by_one` — batches and lists are what their entities are, one by one.
-/

import Switchboard.Proofs.Store.Representation

namespace Switchboard

open Act

/-! ### Checks -/

/-- The fault of an entity that no store takes. -/
def Entity.fault? {E : Type} [Entity E] (entity : E) : Option Fault :=
  match Entity.check entity with
  | .ok _ => none
  | .error fault => some fault

section Checks

variable {E : Type} [Entity E]

theorem Entity.fault?_eq_none {entity : E} : Entity.fault? entity = none ↔ Entity.check entity = .ok () := by
  unfold fault?
  cases Entity.check entity <;> simp

theorem Entity.fault?_eq_some {entity : E} {fault : Fault} :
    Entity.fault? entity = some fault ↔ Entity.check entity = .error fault := by
  unfold fault?
  cases Entity.check entity <;> simp

/-- **The checks of a batch** end with the fault of the first entity that has one. -/
theorem Entity.forM_check (batch : List E) :
    batch.forM Entity.check =
      match batch.findSome? Entity.fault? with
      | some fault => .error fault
      | none => .ok () := by
  induction batch with
  | nil => rfl
  | cons entity rest ih =>
    rw [List.findSome?_cons]
    show (Entity.check entity >>= fun _ => rest.forM Entity.check) = _
    cases checked : Entity.check entity with
    | error fault =>
      rw [Entity.fault?_eq_some.mpr checked]
      rfl
    | ok done =>
      rw [Entity.fault?_eq_none.mpr checked]
      exact ih

end Checks

namespace Store

variable {E : Type} [Entity E] {store : Store E} {moment : Moment} {entity : E}

/-! ### Settling entities -/

/-- Updates the entity under an identifier that is kept, and creates a new one. -/
def settle (entity : E) : Act (Store E) Unit := do
  if ← handle (.has (Entity.id entity)) then handle (.update entity) else handle (.create entity)

/-- **An entity that passes its check is settled by keeping it or replacing the one before it.** -/
theorem perform_settle (passed : Entity.check entity = .ok ()) :
    (settle entity).perform moment store = (.ok (), upsert moment.wall store entity) := by
  have asked : (handle (.has (Entity.id entity))).perform moment store =
      (.ok (store.find? (Entity.id entity)).isSome, store) := by
    rw [← contains_eq]
    rfl
  unfold settle upsert
  rw [perform_bind, asked]
  cases kept : store.find? (Entity.id entity) with
  | some previous =>
    have updated : store.update moment.wall entity = .ok (store.insert (restamp moment.wall entity previous)) := by
      simp only [update, passed, kept]
      rfl
    simp [handle, perform_changing, updated]
  | none =>
    have created : store.create entity = .ok (store.insert entity) := by
      simp only [create, passed, kept]
      rfl
    simp [handle, perform_changing, created]

/-- **Checked entities are settled in their order**, each in the store that those before it left. -/
theorem perform_settleAll {batch : List E} (passed : ∀ entity ∈ batch, Entity.check entity = .ok ()) :
    (batch.forM settle).perform moment store = (.ok (), batch.foldl (upsert moment.wall) store) := by
  induction batch generalizing store with
  | nil => rfl
  | cons entity rest ih =>
    obtain ⟨first, others⟩ := List.forall_mem_cons.mp passed
    show (settle entity >>= fun _ => rest.forM settle).perform moment store = _
    rw [perform_bind, perform_settle first]
    exact ih others

/-- **A batch with a fault changes nothing**, and the first fault is reported; any other batch is kept. -/
theorem perform_save_eq (moment : Moment) (store : Store E) (batch : List E) :
    (handle (.save batch)).perform moment store =
      match batch.findSome? Entity.fault? with
      | some fault => (.error fault, store)
      | none => (.ok (), batch.foldl (upsert moment.wall) store) := by
  show (changing _).perform moment store = _
  rw [perform_changing, save, Entity.forM_check]
  cases batch.findSome? Entity.fault? with
  | some fault => rfl
  | none => rfl

/-! ### Stores of lists -/

theorem perform_create (store : Store E) (entity : E) :
    (handle (.create entity)).perform moment store =
      match store.create entity with
      | .ok changed => (.ok (), changed)
      | .error fault => (.error fault, store) :=
  perform_changing _

/-- **Entities are created one after the other**, until one cannot be. -/
theorem foldlM_create (store : Store E) (entities : List E) :
    entities.foldlM create store =
      let (outcome, made) := (entities.forM fun entity => handle (.create entity)).perform moment store
      outcome.map fun _ => made := by
  induction entities generalizing store with
  | nil => rfl
  | cons entity rest ih =>
    show _ = let (outcome, made) :=
      (handle (.create entity) >>= fun _ => rest.forM fun entity => handle (.create entity)).perform moment store
      outcome.map fun _ => made
    rw [List.foldlM_cons, perform_bind, perform_create]
    cases store.create entity with
    | error fault => rfl
    | ok changed => exact ih changed

/-- An entity in a table, under an identifier that the table does not have yet. -/
def enter (table : Table E) (entity : E) : Except Fault (Table E) := do
  Entity.check entity
  if table.contains (Entity.id entity) then
    throw (.alreadyExists (Entity.kind E) (Entity.id entity))
  pure (table.insert (Entity.id entity) entity)

/-- An entity is entered as it is created. -/
theorem map_enter (table : Table E) (entity : E) :
    (enter table entity).map Store.mk = (⟨table⟩ : Store E).create entity := by
  have present : table.contains (Entity.id entity) = ((⟨table⟩ : Store E).find? (Entity.id entity)).isSome :=
    contains_eq ⟨table⟩ (Entity.id entity)
  unfold enter create
  rw [present]
  cases Entity.check entity with
  | error fault => rfl
  | ok done =>
    cases (⟨table⟩ : Store E).find? (Entity.id entity) with
    | some previous => rfl
    | none => rfl

/-- **A store is made of a list by creating the entities of the list.** -/
theorem ofList_eq_foldlM (entities : List E) : ofList entities = entities.foldlM create empty := by
  -- A list is made a table before it is made a store, and nothing is thrown in between.
  have made : ∀ table : Table E,
      (entities.foldlM enter table).map Store.mk = entities.foldlM create ⟨table⟩ := by
    induction entities with
    | nil => exact fun _ => rfl
    | cons entity rest ih =>
      intro table
      rw [List.foldlM_cons, List.foldlM_cons, ← map_enter]
      cases enter table entity with
      | error fault => rfl
      | ok added => exact ih added
  refine Eq.trans ?_ (made ∅)
  show (entities.foldlM enter ∅ >>= fun table => pure (Store.mk table)) = _
  cases entities.foldlM enter (∅ : Table E) with
  | error fault => rfl
  | ok table => rfl

/-- **Batches and lists are what their entities are, one by one.** A batch in which an entity does not pass its
check changes nothing, and the fault of the first such entity is reported. Any other batch is kept, and leaves
the store, with all its times, that updating or creating its entities in their order leaves. A store is made of a
list as it is by creating the entities of the list in their order in the store of nothing, and fails as this
does. -/
theorem batches_go_one_by_one (store : Store E) (batch entities : List E) (moment : Moment) :
    (match batch.findSome? Entity.fault? with
      | some fault => (handle (.save batch)).perform moment store = (.error fault, store)
      | none => ∃ after, (handle (.save batch)).perform moment store = (.ok (), after) ∧
          (batch.forM settle).perform moment store = (.ok (), after)) ∧
    ofList entities =
      let (outcome, made) := (entities.forM fun entity => handle (.create entity)).perform moment empty
      outcome.map fun _ => made := by
  constructor
  · have saved := perform_save_eq moment store batch
    cases faulty : batch.findSome? Entity.fault? with
    | some fault =>
      rw [faulty] at saved
      exact saved
    | none =>
      rw [faulty] at saved
      refine ⟨_, saved, perform_settleAll fun entity listed => ?_⟩
      exact Entity.fault?_eq_none.mp (List.findSome?_eq_none_iff.mp faulty entity listed)
  · rw [ofList_eq_foldlM, foldlM_create]

end Store

end Switchboard

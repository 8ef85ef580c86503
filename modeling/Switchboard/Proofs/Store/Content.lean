/-
**What a store keeps.**

* `Store.Keyed` — every entity is kept under its own identifier. Stores made from lists are keyed
  (`Store.keyed_ofList`) and stay so under every call (`Store.keyed_handle`).
* `Store.Keyed.sorted` — a keyed store lists its entities in the order of their identifiers.
* `StoreCall.Alters` — the identifiers of which a call may alter what is kept; nothing is altered under
  any other (`Store.find?_handle`), and nothing at all by a call that fails (`Store.handle_of_error`).
* one inversion lemma per change of a store says what it does if it succeeds.
* `Handler.Orderly` — the three facts on calls as one, for any handler above a store.
-/

import Switchboard.Proofs.Action.Perform
import Switchboard.Proofs.Outcome
import Switchboard.Proofs.Table
import Switchboard.Store

namespace Switchboard

/-- A call may alter what is kept under an identifier. -/
def StoreCall.Alters {E : Type} [Entity E] : StoreCall E → String → Prop
  | create entity, id | update entity, id => Entity.id entity = id
  | delete target, id => target = id
  | save _, _ | deleteAll, _ => True
  | has _, _ | find _, _ | read _, _ | fetch _, _ | all, _ | count, _ | prepare, _ => False

namespace Store

variable {E : Type} [Entity E] {store changed : Store E}

/-- Every entity is kept under its own identifier. -/
def Keyed (store : Store E) : Prop :=
  ∀ id entity, store.find? id = some entity → Entity.id entity = id

/-! ### Looking up -/

theorem find?_insert (entity : E) (id : String) :
    (store.insert entity).find? id = if Entity.id entity = id then some entity else store.find? id :=
  Table.getElem?_insert_eq _ _ _

theorem find?_insert_of_ne {entity : E} {id : String} (other : Entity.id entity ≠ id) :
    (store.insert entity).find? id = store.find? id := by
  rw [find?_insert, if_neg other]

omit [Entity E] in
theorem mem_toList {entity : E} : entity ∈ store.toList ↔ ∃ id, store.find? id = some entity :=
  Table.mem_values

theorem Keyed.find?_of_mem (keyed : store.Keyed) {entity : E} (listed : entity ∈ store.toList) :
    store.find? (Entity.id entity) = some entity := by
  obtain ⟨id, found⟩ := mem_toList.mp listed
  rw [keyed id entity found]
  exact found

theorem keyed_empty : (empty : Store E).Keyed := by
  intro id entity found
  have missing : (empty : Store E).find? id = none := Std.ExtTreeMap.getElem?_empty
  rw [missing] at found
  cases found

theorem Keyed.insert (keyed : store.Keyed) (entity : E) : (store.insert entity).Keyed := by
  intro id other found
  rw [find?_insert] at found
  split at found
  · cases found
    assumption
  · exact keyed id other found

theorem Keyed.erase (keyed : store.Keyed) (target : String) :
    Keyed (E := E) ⟨store.entities.erase target⟩ := by
  intro id entity found
  have kept : (store.entities.erase target)[id]? = some entity := found
  rw [Table.getElem?_erase_eq] at kept
  split at kept
  · cases kept
  · exact keyed id entity kept

/-! ### Listing -/

/-- Entities are listed in the order of their identifiers. -/
theorem Keyed.map_id_toList (keyed : store.Keyed) : store.toList.map Entity.id = store.ids := by
  unfold toList ids
  rw [Table.values_eq, List.map_map, ← Std.ExtTreeMap.map_fst_toList_eq_keys]
  refine List.map_congr_left fun ⟨id, entity⟩ listed => ?_
  exact keyed id entity (Std.ExtTreeMap.mem_toList_iff_getElem?_eq_some.mp listed)

theorem Keyed.sorted (keyed : store.Keyed) :
    store.toList.Pairwise fun first second => Entity.id first < Entity.id second := by
  have sorted : store.ids.Pairwise (· < ·) := by
    have ordered : store.entities.keys.Pairwise fun first second => compare first second = .lt :=
      Std.ExtTreeMap.ordered_keys
    exact ordered.imp fun before => compareOfLessAndEq_eq_lt.mp before
  rw [← keyed.map_id_toList, List.pairwise_map] at sorted
  exact sorted

/-- The entities of a store have different identifiers. -/
theorem Keyed.distinct (keyed : store.Keyed) :
    store.toList.Pairwise fun first second => Entity.id first ≠ Entity.id second := by
  apply keyed.sorted.imp
  intro first second before same
  exact String.lt_irrefl (Entity.id second) (same ▸ before)

/-! ### Changes that succeed -/

theorem create_eq_ok {entity : E} (created : store.create entity = .ok changed) :
    Entity.check entity = .ok () ∧ store.find? (Entity.id entity) = none ∧
      changed = store.insert entity := by
  obtain ⟨_, checked, inserted⟩ := Outcome.bind_eq_ok.mp created
  split at inserted
  · cases inserted
  next missing =>
    cases inserted
    exact ⟨checked, missing, rfl⟩

theorem update_eq_ok {now : Time.Instant} {entity : E}
    (updated : store.update now entity = .ok changed) :
    Entity.check entity = .ok () ∧ ∃ previous, store.find? (Entity.id entity) = some previous ∧
      changed = store.insert (restamp now entity previous) := by
  obtain ⟨_, checked, replaced⟩ := Outcome.bind_eq_ok.mp updated
  split at replaced
  next previous found =>
    cases replaced
    exact ⟨checked, previous, found, rfl⟩
  · cases replaced

/-- An entity that passes its check replaces the one before it. -/
theorem update_of_kept {now : Time.Instant} {entity previous : E} (passed : Entity.check entity = .ok ())
    (kept : store.find? (Entity.id entity) = some previous) :
    store.update now entity = .ok (store.insert (restamp now entity previous)) := by
  refine Outcome.bind_eq_ok.mpr ⟨(), passed, ?_⟩
  rw [kept]
  rfl

theorem delete_eq_ok {id : String} (deleted : store.delete id = .ok changed) :
    (∃ previous, store.find? id = some previous) ∧ changed = ⟨store.entities.erase id⟩ := by
  unfold delete at deleted
  split at deleted
  next previous found =>
    cases deleted
    exact ⟨⟨previous, found⟩, rfl⟩
  · cases deleted

theorem save_eq_ok {now : Time.Instant} {entities : List E}
    (saved : store.save now entities = .ok changed) :
    entities.forM Entity.check = .ok () ∧ changed = entities.foldl (upsert now) store := by
  obtain ⟨_, checked, replaced⟩ := Outcome.bind_eq_ok.mp saved
  cases replaced
  exact ⟨checked, rfl⟩

theorem id_restamp (now : Time.Instant) (entity previous : E) :
    Entity.id (restamp now entity previous) = Entity.id entity := Entity.id_stamp _ _ _

theorem upsert_eq_insert (store : Store E) (now : Time.Instant) (entity : E) :
    ∃ kept, Entity.id kept = Entity.id entity ∧ upsert now store entity = store.insert kept := by
  unfold upsert
  cases store.find? (Entity.id entity) with
  | some previous => exact ⟨restamp now entity previous, id_restamp now entity previous, rfl⟩
  | none => exact ⟨entity, rfl, rfl⟩

theorem Keyed.upsertAll (keyed : store.Keyed) (now : Time.Instant) (entities : List E) :
    (entities.foldl (upsert now) store).Keyed := by
  induction entities generalizing store with
  | nil => exact keyed
  | cons entity rest ih =>
    obtain ⟨kept, _, replaced⟩ := upsert_eq_insert store now entity
    rw [List.foldl_cons, replaced]
    exact ih (keyed.insert kept)

/-- **A store that is made from a list is keyed.** -/
theorem keyed_ofList {entities : List E} (made : ofList entities = .ok store) : store.Keyed := by
  obtain ⟨table, folded, whole⟩ := Outcome.bind_eq_ok.mp made
  cases whole
  refine Outcome.foldlM_keeps (fun table => Keyed (E := E) ⟨table⟩) ?_ keyed_empty folded
  intro before entity after _ keyed added
  obtain ⟨_, _, admitted⟩ := Outcome.bind_eq_ok.mp added
  split at admitted
  · cases admitted
  · cases admitted
    exact Keyed.insert keyed entity

/-! ### Calls -/

section Calls

variable {moment : Moment}

omit [Entity E] in
theorem perform_changing (change : Store E → Time.Instant → Except Fault (Store E)) :
    (changing change).perform moment store =
      match change store moment.wall with
      | .ok changed => (.ok (), changed)
      | .error fault => (.error fault, store) := by
  simp only [changing, Act.perform_bind, Act.perform_get, Act.perform_now, Act.perform_lift]
  cases change store moment.wall with
  | ok changed => rfl
  | error fault => rfl

omit [Entity E] in
/-- The store after a change, if the change succeeds only in making it `changed`. -/
theorem changing_keeps {change : Store E → Time.Instant → Except Fault (Store E)}
    (kept : Store E → Prop) (unchanged : kept store)
    (keeps : ∀ changed, change store moment.wall = .ok changed → kept changed) :
    kept ((changing change).perform moment store).2 := by
  rw [perform_changing]
  split
  next changed succeeds => exact keeps changed succeeds
  · exact unchanged

omit [Entity E] in
theorem changing_of_error {change : Store E → Time.Instant → Except Fault (Store E)} {fault : Fault}
    (fails : ((changing change).perform moment store).1 = .error fault) :
    ((changing change).perform moment store).2 = store := by
  rw [perform_changing] at fails ⊢
  split at fails
  · cases fails
  · rfl

/-- **Every call keeps a store keyed.** -/
theorem keyed_handle (keyed : store.Keyed) (call : StoreCall E) :
    ((handle call).perform moment store).2.Keyed := by
  cases call with
  | create entity =>
    refine changing_keeps Keyed keyed fun changed succeeds => ?_
    obtain ⟨_, _, rfl⟩ := create_eq_ok succeeds
    exact keyed.insert entity
  | update entity =>
    refine changing_keeps Keyed keyed fun changed succeeds => ?_
    obtain ⟨_, previous, _, rfl⟩ := update_eq_ok succeeds
    exact keyed.insert _
  | delete id =>
    refine changing_keeps Keyed keyed fun changed succeeds => ?_
    obtain ⟨_, rfl⟩ := delete_eq_ok succeeds
    exact keyed.erase id
  | save entities =>
    refine changing_keeps Keyed keyed fun changed succeeds => ?_
    obtain ⟨_, rfl⟩ := save_eq_ok succeeds
    exact keyed.upsertAll _ entities
  | deleteAll => exact keyed_empty
  | read id | fetch id =>
    simp only [handle, Act.perform_bind, Act.perform_get, Act.perform_lift]
    exact keyed
  | has id | find id | all | count | prepare => exact keyed

/-- **Nothing is altered under another identifier.** -/
theorem find?_handle {call : StoreCall E} {id : String} (other : ¬call.Alters id) :
    ((handle call).perform moment store).2.find? id = store.find? id := by
  cases call with
  | create entity =>
    refine changing_keeps (fun changed => changed.find? id = store.find? id) rfl ?_
    intro changed succeeds
    obtain ⟨_, _, rfl⟩ := create_eq_ok succeeds
    exact find?_insert_of_ne other
  | update entity =>
    refine changing_keeps (fun changed => changed.find? id = store.find? id) rfl ?_
    intro changed succeeds
    obtain ⟨_, previous, _, rfl⟩ := update_eq_ok succeeds
    exact find?_insert_of_ne (by rw [id_restamp]; exact other)
  | delete target =>
    refine changing_keeps (fun changed => changed.find? id = store.find? id) rfl ?_
    intro changed succeeds
    obtain ⟨_, rfl⟩ := delete_eq_ok succeeds
    show (store.entities.erase target)[id]? = _
    rw [Table.getElem?_erase_eq, if_neg (fun same : target = id => other same)]
    rfl
  | save entities | deleteAll => exact absurd trivial other
  | read target | fetch target =>
    simp only [handle, Act.perform_bind, Act.perform_get, Act.perform_lift]
  | has target | find target | all | count | prepare => rfl

/-- **A call that fails leaves the store as it was.** -/
theorem handle_of_error {call : StoreCall E} {fault : Fault}
    (fails : ((handle call).perform moment store).1 = .error fault) :
    ((handle call).perform moment store).2 = store := by
  cases call with
  | create entity => exact changing_of_error fails
  | update entity => exact changing_of_error fails
  | delete id => exact changing_of_error fails
  | save entities => exact changing_of_error fails
  | deleteAll => cases fails
  | read id | fetch id =>
    simp only [handle, Act.perform_bind, Act.perform_get, Act.perform_lift]
  | has id | find id | all | count | prepare => rfl

end Calls

end Store

/-! ### Handlers above a store -/

/-- The calls of a handler keep the store below it keyed, alter nothing that they do not say, and nothing
at all if they fail. -/
structure Handler.Orderly {E C σ : Type} [Entity E] {Reply : C → Type} (contents : σ → Store E)
    (alters : C → String → Prop) (handler : Handler Reply σ) : Prop where
  keyed : ∀ call moment state, (contents state).Keyed →
    (contents ((handler call).perform moment state).2).Keyed
  frame : ∀ call moment state id, (contents state).Keyed → ¬alters call id →
    (contents ((handler call).perform moment state).2).find? id = (contents state).find? id
  error : ∀ call moment state fault, ((handler call).perform moment state).1 = .error fault →
    contents ((handler call).perform moment state).2 = contents state

end Switchboard

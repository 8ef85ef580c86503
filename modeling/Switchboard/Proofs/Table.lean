/-
**Tables, looked up by name.**

* `Table.getElem?_insert_eq`, `Table.getElem?_erase_eq` — a look-up after a change, by equality of names.
* `Table.mem_values` — the values of a table are what can be looked up in it.
* `Table.union_eq_foldl_insert` — a table laid over another one, entry by entry.
-/

import Switchboard.Table

namespace Switchboard

namespace Table

variable {α : Type} {table : Table α}

theorem getElem?_insert_eq (key other : String) (value : α) :
    (table.insert key value)[other]? = if key = other then some value else table[other]? := by
  rw [Std.ExtTreeMap.getElem?_insert]
  simp only [Std.compare_eq_iff_eq]

theorem getElem?_erase_eq (key other : String) :
    (table.erase key)[other]? = if key = other then none else table[other]? := by
  rw [Std.ExtTreeMap.getElem?_erase]
  simp only [Std.compare_eq_iff_eq]

/-- The values are listed in the order of the names. -/
theorem values_eq (table : Table α) : table.values = table.toList.map Prod.snd := by
  rcases table with ⟨⟨inner⟩⟩
  induction inner using Quotient.ind with
  | _ inner =>
    show inner.inner.values = (Std.DTreeMap.Internal.Impl.Const.toList inner.inner).map Prod.snd
    rw [Std.DTreeMap.Internal.Impl.values_eq_map_snd,
      Std.DTreeMap.Internal.Impl.Const.toList_eq_toListModel_map, List.map_map]
    rfl

theorem mem_values {value : α} : value ∈ table.values ↔ ∃ key : String, table[key]? = some value := by
  rw [values_eq, List.mem_map]
  constructor
  · rintro ⟨⟨key, value⟩, listed, rfl⟩
    exact ⟨key, Std.ExtTreeMap.mem_toList_iff_getElem?_eq_some.mp listed⟩
  · rintro ⟨key, found⟩
    exact ⟨(key, value), Std.ExtTreeMap.mem_toList_iff_getElem?_eq_some.mpr found, rfl⟩

/-- A table laid over another one is the insertion of its entries, one after the other. -/
theorem union_eq_foldl_insert (table overrides : Table α) :
    table ∪ overrides = overrides.toList.foldl (fun table entry => table.insert entry.1 entry.2) table := by
  rw [← Std.ExtTreeMap.insertMany_list_eq_foldl]
  refine Std.ExtTreeMap.ext_getElem? fun key => ?_
  rw [Std.ExtTreeMap.getElem?_union]
  cases held : overrides[key]? with
  | some value =>
    have listed : (key, value) ∈ overrides.toList := Std.ExtTreeMap.mem_toList_iff_getElem?_eq_some.mpr held
    exact (Std.ExtTreeMap.getElem?_insertMany_list_of_mem Std.ReflCmp.compare_self
      Std.ExtTreeMap.distinct_keys_toList listed).symm
  | none =>
    have absent : (overrides.toList.map Prod.fst).contains key = false := by
      rw [Std.ExtTreeMap.map_fst_toList_eq_keys, Std.ExtTreeMap.contains_keys,
        Std.ExtTreeMap.contains_eq_isSome_getElem?, held]
      rfl
    exact (Std.ExtTreeMap.getElem?_insertMany_list_of_contains_eq_false absent).symm

end Table

end Switchboard

/-
**Sets of names and tables keyed by names.**

Both are listed in the order of the code points of the names, and two of them are equal as soon as
they hold the same.
-/

import Std.Data.ExtTreeMap
import Std.Data.ExtTreeSet

namespace Switchboard

/-- A set of names. -/
abbrev Names := Std.ExtTreeSet String

/-- A table keyed by names. -/
abbrev Table (α : Type) := Std.ExtTreeMap String α

namespace Names

/-- The set of the names of a list. -/
def of (names : List String) : Names := Std.ExtTreeSet.ofList names

/-- A set with the names of a list added. -/
def addAll (set : Names) (names : List String) : Names := names.foldl (fun set name => set.insert name) set

/-- A set without the names of a list. -/
def removeAll (set : Names) (names : List String) : Names :=
  names.foldl (fun set name => set.erase name) set

theorem mem_addAll {set : Names} {names : List String} {name : String} :
    name ∈ set.addAll names ↔ name ∈ set ∨ name ∈ names := by
  induction names generalizing set with
  | nil => simp [addAll]
  | cons first rest ih =>
    have inserted : name ∈ set.insert first ↔ name = first ∨ name ∈ set := by
      rw [Std.ExtTreeSet.mem_insert, Std.LawfulEqCmp.compare_eq_iff_eq, eq_comm]
    simp only [addAll, List.foldl_cons] at ih ⊢
    rw [ih, inserted, List.mem_cons, or_assoc, or_left_comm]

theorem mem_removeAll {set : Names} {names : List String} {name : String} :
    name ∈ set.removeAll names ↔ name ∈ set ∧ name ∉ names := by
  induction names generalizing set with
  | nil => simp [removeAll]
  | cons first rest ih =>
    have erased : name ∈ set.erase first ↔ name ≠ first ∧ name ∈ set := by
      rw [Std.ExtTreeSet.mem_erase, Ne, Std.LawfulEqCmp.compare_eq_iff_eq, eq_comm]
    simp only [removeAll, List.foldl_cons] at ih ⊢
    rw [ih, erased, List.mem_cons, not_or]
    exact ⟨fun ⟨⟨differs, held⟩, tail⟩ => ⟨held, differs, tail⟩,
      fun ⟨held, differs, tail⟩ => ⟨⟨differs, held⟩, tail⟩⟩

end Names

end Switchboard

/-
**Contexts laid over each other.**

* `Context.merged_assoc`, `Context.empty_merged`, `Context.merged_empty`, `Context.merged_self` — laying contexts over
  each other is associative and idempotent, and the empty context is neutral.
* `Context.merged_eq_setAll` — a context laid over another one sets its values there, one after the other.
* `Context.ReadsAlike` — all that can be read of two contexts under a name is the same.
* `Context.LaidOver`, `Context.laidOver_merged` — every name is read from the upper context if it has the name, and from
  the lower one otherwise; the principal is the upper one's or the lower one's, as a whole.
-/

import Switchboard.Context
import Switchboard.Proofs.Table

namespace Switchboard

namespace Context

variable {context overrides left right : Context} {key : String}

/-! ### What is read -/

theorem contains_eq (context : Context) (key : String) : context.contains key = (context.get? key).isSome :=
  Std.ExtTreeMap.contains_eq_isSome_getElem?

/-- Contexts with the same values and the same principal are the same. -/
theorem ext_get? (values : ∀ key, left.get? key = right.get? key) (principal : left.principal = right.principal) :
    left = right := by
  rcases left with ⟨_, _⟩
  rcases right with ⟨_, _⟩
  cases principal
  exact congrArg (Context.mk · _) (Std.ExtTreeMap.ext_getElem? fun key => values key)

@[simp]
theorem get?_empty (key : String) : empty.get? key = none := Std.ExtTreeMap.getElem?_empty

@[simp]
theorem principal_empty : empty.principal = none := rfl

@[simp]
theorem get?_merged (context overrides : Context) (key : String) :
    (context.merged overrides).get? key = (overrides.get? key).or (context.get? key) :=
  Std.ExtTreeMap.getElem?_union

@[simp]
theorem principal_merged (context overrides : Context) :
    (context.merged overrides).principal = overrides.principal.or context.principal := rfl

/-! ### Laws -/

/-- **Layers compose**: it makes no difference which two of three contexts are laid over each other first. -/
theorem merged_assoc (lowest middle upper : Context) :
    (lowest.merged middle).merged upper = lowest.merged (middle.merged upper) := by
  refine ext_get? (fun key => ?_) ?_
  · simp only [get?_merged, Option.or_assoc]
  · simp only [principal_merged, Option.or_assoc]

@[simp]
theorem empty_merged (context : Context) : empty.merged context = context := by
  refine ext_get? (fun key => ?_) ?_
  · rw [get?_merged, get?_empty, Option.or_none]
  · rw [principal_merged, principal_empty, Option.or_none]

@[simp]
theorem merged_empty (context : Context) : context.merged empty = context := by
  refine ext_get? (fun key => ?_) ?_
  · rw [get?_merged, get?_empty, Option.none_or]
  · rw [principal_merged, principal_empty, Option.none_or]

@[simp]
theorem merged_self (context : Context) : context.merged context = context := by
  refine ext_get? (fun key => ?_) ?_
  · rw [get?_merged, Option.or_self]
  · rw [principal_merged, Option.or_self]

/-! ### Values, one after the other -/

/-- The context with values set one after the other. -/
def setAll (context : Context) (entries : List (String × Value)) : Context :=
  entries.foldl (fun context entry => context.set entry.1 entry.2) context

theorem setAll_eq (context : Context) (entries : List (String × Value)) :
    context.setAll entries =
      { context with
        values := entries.foldl (fun values entry => values.insert entry.1 entry.2) context.values } := by
  induction entries generalizing context with
  | nil => rfl
  | cons entry rest ih => exact ih (context.set entry.1 entry.2)

/-- **A context laid over another one** sets its values there, one after the other, and its principal if it has one. -/
theorem merged_eq_setAll (context overrides : Context) :
    context.merged overrides =
      (context.setAll overrides.values.toList).withPrincipal (overrides.principal.or context.principal) := by
  rw [setAll_eq, ← Table.union_eq_foldl_insert]
  rfl

/-! ### Names and principals -/

/-- All that can be read of two contexts under a name is the same: the value itself, and so its type and what every
getter makes of it. -/
structure ReadsAlike (key : String) (left right : Context) : Prop where
  get? : left.get? key = right.get? key
  contains : left.contains key = right.contains key
  text? : left.text? key = right.text? key
  bool? : left.bool? key = right.bool? key
  int? : left.int? key = right.int? key
  double? : left.double? key = right.double? key
  date? : left.date? key = right.date? key

theorem ReadsAlike.of_get? (same : left.get? key = right.get? key) : ReadsAlike key left right where
  get? := same
  contains := by rw [contains_eq, contains_eq, same]
  text? := congrArg (Option.bind · Value.asText?) same
  bool? := congrArg (Option.bind · Value.asBool?) same
  int? := congrArg (Option.bind · Value.asInt?) same
  double? := congrArg (Option.bind · Value.asDouble?) same
  date? := congrArg (Option.bind · Value.asDate?) same

/-- What a context is that came of laying one context over another, and what can be read of it. -/
structure LaidOver (context overrides merged : Context) : Prop where
  /-- The values of the upper context are set one after the other, and its principal if it has one. -/
  set : merged =
    (context.setAll overrides.values.toList).withPrincipal (overrides.principal.or context.principal)
  /-- A name that the upper context has is read from there. -/
  taken : ∀ key, overrides.contains key = true → ReadsAlike key merged overrides
  /-- Every other name is read from the lower context. -/
  kept : ∀ key, overrides.contains key = false → ReadsAlike key merged context
  /-- A principal, with its groups, is that of the upper context, or that of the lower one if the upper one has none. -/
  acting : ∀ principal, merged.principal = some principal ↔
    overrides.principal = some principal ∨ overrides.principal = none ∧ context.principal = some principal

/-- **A context laid over another one** is read from the upper one first. -/
theorem laidOver_merged (context overrides : Context) : LaidOver context overrides (context.merged overrides) where
  set := merged_eq_setAll context overrides
  taken key present := by
    rw [contains_eq] at present
    obtain ⟨value, found⟩ := Option.isSome_iff_exists.mp present
    refine .of_get? ?_
    rw [get?_merged, found, Option.some_or]
  kept key absent := by
    rw [contains_eq, Option.isSome_eq_false_iff, Option.isNone_iff_eq_none] at absent
    refine .of_get? ?_
    rw [get?_merged, absent, Option.none_or]
  acting principal := by rw [principal_merged, Option.or_eq_some_iff]

end Context

end Switchboard

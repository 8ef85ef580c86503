/-
**Actions that end alike.**

* `Act.Agree related left right` — started in related states, two actions have the same outcome and end
  in related states. The relation can be between states of different types.
* the rules follow the ways in which actions are made: in a row (`Agree.bind`), after a look at the
  state (`Agree.get_bind`), on a part of the state (`Agree.onPart`), with the outcome as a result
  (`Agree.attempt`).
* `Handler.AgreeOn` — the same of handlers, for some of their calls.
-/

import Switchboard.Proofs.Action.Perform

namespace Switchboard

namespace Act

variable {σ τ σ' τ' α β : Type}

/-- Started in related states, two actions have the same outcome and end in related states. -/
def Agree (related : σ → τ → Prop) (left : Act σ α) (right : Act τ α) : Prop :=
  ∀ moment state state', related state state' →
    (left.perform moment state).1 = (right.perform moment state').1 ∧
      related (left.perform moment state).2 (right.perform moment state').2

namespace Agree

variable {related : σ → τ → Prop}

/-- An action agrees with itself in one state. -/
theorem refl (action : Act σ α) : Agree Eq action action := by
  rintro moment state _ rfl
  exact ⟨rfl, rfl⟩

theorem pure (value : α) : Agree related (Pure.pure value : Act σ α) (Pure.pure value) :=
  fun _ _ _ start => ⟨rfl, start⟩

theorem throw (fault : Fault) :
    Agree related (MonadExcept.throw fault : Act σ α) (MonadExcept.throw fault) :=
  fun _ _ _ start => ⟨rfl, start⟩

theorem lift (outcome : Except Fault α) : Agree related (Act.lift outcome) (Act.lift outcome) := by
  intro moment state state' start
  rw [perform_lift, perform_lift]
  exact ⟨rfl, start⟩

theorem now : Agree related Act.now Act.now := fun _ _ _ start => ⟨rfl, start⟩

theorem clock : Agree related Act.clock Act.clock := fun _ _ _ start => ⟨rfl, start⟩

theorem modify {change : σ → σ} {change' : τ → τ}
    (keeps : ∀ state state', related state state' → related (change state) (change' state')) :
    Agree related (modify change) (modify change') :=
  fun _ state state' start => ⟨rfl, keeps state state' start⟩

theorem modifyGet {change : σ → α × σ} {change' : τ → α × τ}
    (same : ∀ state state', related state state' → (change state).1 = (change' state').1)
    (keeps : ∀ state state', related state state' → related (change state).2 (change' state').2) :
    Agree related (modifyGet change : Act σ α) (modifyGet change') := by
  intro moment state state' start
  rw [perform_modifyGet, perform_modifyGet, same state state' start]
  exact ⟨rfl, keeps state state' start⟩

theorem attempt {left : Act σ α} {right : Act τ α} (agree : Agree related left right) :
    Agree related left.attempt right.attempt := by
  intro moment state state' start
  obtain ⟨same, finish⟩ := agree moment state state' start
  rw [perform_attempt, perform_attempt, same]
  exact ⟨rfl, finish⟩

/-- **In a row.** -/
theorem bind {left : Act σ α} {right : Act τ α} {next : α → Act σ β} {next' : α → Act τ β}
    (first : Agree related left right) (rest : ∀ value, Agree related (next value) (next' value)) :
    Agree related (left >>= next) (right >>= next') := by
  intro moment state state' start
  obtain ⟨same, finish⟩ := first moment state state' start
  rw [perform_bind, perform_bind, ← same]
  cases (left.perform moment state).1 with
  | ok value => exact rest value moment _ _ finish
  | error fault => exact ⟨rfl, finish⟩

/-- After a look at the state, what follows only has to agree for related states. -/
theorem get_bind {next : σ → Act σ β} {next' : τ → Act τ β}
    (rest : ∀ state state', related state state' → Agree related (next state) (next' state')) :
    Agree related (get >>= next) (get >>= next') := by
  intro moment state state' start
  rw [perform_bind_ok rfl, perform_bind_ok rfl]
  exact rest state state' start moment state state' start

/-- **On a part of the state.** -/
theorem onPart {inner : σ' → τ' → Prop} {part : σ → σ'} {part' : τ → τ'}
    {replace : σ' → σ → σ} {replace' : τ' → τ → τ} {left : Act σ' α} {right : Act τ' α}
    (agree : Agree inner left right)
    (enter : ∀ state state', related state state' → inner (part state) (part' state'))
    (leave : ∀ state state' changed changed', related state state' → inner changed changed' →
      related (replace changed state) (replace' changed' state')) :
    Agree related (Act.onPart part replace left) (Act.onPart part' replace' right) := by
  intro moment state state' start
  obtain ⟨same, finish⟩ := agree moment _ _ (enter state state' start)
  rw [perform_onPart, perform_onPart, same]
  exact ⟨rfl, leave _ _ _ _ start finish⟩

/-- The same, whatever else the outcome may be supposed to need. -/
theorem supposing {left : Act σ α} {right : Act τ α} (agree : Agree related left right) (need : Prop)
    {moment : Moment} {state : σ} {state' : τ} (start : related state state') :
    (need → (left.perform moment state).1 = (right.perform moment state').1) ∧
      related (left.perform moment state).2 (right.perform moment state').2 :=
  (agree moment state state' start).imp_left fun same _ => same

theorem ite {condition : Prop} [Decidable condition] {left left' : Act σ α} {right right' : Act τ α}
    (yes : Agree related left right) (no : Agree related left' right') :
    Agree related (if condition then left else left') (if condition then right else right') := by
  split
  · exact yes
  · exact no

end Agree

end Act

/-- Two handlers agree on some of their calls. -/
def Handler.AgreeOn {C σ τ : Type} {Reply : C → Type} (calls : C → Prop) (related : σ → τ → Prop)
    (left : Handler Reply σ) (right : Handler Reply τ) : Prop :=
  ∀ call, calls call → Act.Agree related (left call) (right call)

end Switchboard

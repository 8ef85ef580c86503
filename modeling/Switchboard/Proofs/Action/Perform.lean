/-
**What actions do, step by step.**

* `Act.perform_bind` — two actions in a row: the second happens only if the first did not fail, in the
  state that the first left.
* one equation per primitive action: a result, a fault, a look at the state or at the moment, a change
  of the state, an action on a part of it.
-/

import Switchboard.Act

namespace Switchboard

namespace Act

variable {σ τ α β : Type} {moment : Moment} {state : σ}

@[simp]
theorem perform_pure (value : α) :
    (pure value : Act σ α).perform moment state = (.ok value, state) := rfl

@[simp]
theorem perform_throw (fault : Fault) :
    (throw fault : Act σ α).perform moment state = (.error fault, state) := rfl

@[simp]
theorem perform_lift (outcome : Except Fault α) :
    (lift outcome : Act σ α).perform moment state = (outcome, state) := by
  cases outcome <;> rfl

@[simp]
theorem perform_get : (get : Act σ σ).perform moment state = (.ok state, state) := rfl

@[simp]
theorem perform_set (changed : σ) :
    (set changed : Act σ Unit).perform moment state = (.ok (), changed) := rfl

@[simp]
theorem perform_modify (change : σ → σ) :
    (modify change : Act σ Unit).perform moment state = (.ok (), change state) := rfl

@[simp]
theorem perform_modifyGet (change : σ → α × σ) :
    (modifyGet change : Act σ α).perform moment state = (.ok (change state).1, (change state).2) := rfl

@[simp]
theorem perform_now : (now : Act σ Time.Instant).perform moment state = (.ok moment.wall, state) := rfl

@[simp]
theorem perform_clock : (clock : Act σ Nat).perform moment state = (.ok moment.clock, state) := rfl

@[simp]
theorem perform_attempt (action : Act σ α) :
    action.attempt.perform moment state =
      (.ok (action.perform moment state).1, (action.perform moment state).2) := rfl

@[simp]
theorem perform_onPart (part : τ → σ) (replace : σ → τ → τ) (action : Act σ α) (whole : τ) :
    (onPart part replace action).perform moment whole =
      ((action.perform moment (part whole)).1,
        replace (action.perform moment (part whole)).2 whole) := rfl

/-- **Two actions in a row.** -/
theorem perform_bind (action : Act σ α) (next : α → Act σ β) :
    (action >>= next).perform moment state =
      match (action.perform moment state).1 with
      | .ok value => (next value).perform moment (action.perform moment state).2
      | .error fault => (.error fault, (action.perform moment state).2) := by
  have unfolded : (action >>= next).perform moment state =
      match action.perform moment state with
      | (.ok value, changed) => (next value).perform moment changed
      | (.error fault, changed) => (.error fault, changed) := by
    simp only [perform, bind, ReaderT.bind, ReaderT.run, ExceptT.bind, ExceptT.run, ExceptT.mk,
      StateT.run, StateT.bind]
    rcases action moment state with ⟨outcome | outcome, changed⟩ <;> rfl
  rw [unfolded]
  rcases action.perform moment state with ⟨outcome | outcome, changed⟩ <;> rfl

theorem perform_bind_ok {action : Act σ α} {next : α → Act σ β} {value : α}
    (succeeds : (action.perform moment state).1 = .ok value) :
    (action >>= next).perform moment state =
      (next value).perform moment (action.perform moment state).2 := by
  rw [perform_bind, succeeds]

theorem perform_bind_error {action : Act σ α} {next : α → Act σ β} {fault : Fault}
    (fails : (action.perform moment state).1 = .error fault) :
    (action >>= next).perform moment state = (.error fault, (action.perform moment state).2) := by
  rw [perform_bind, fails]

end Act

end Switchboard

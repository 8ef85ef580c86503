/-
**Actions.**

An action happens at a moment, may change a state, and ends with a result or a fault; a fault keeps
the changes made before it.

* `Act.perform` — the outcome of an action and the state after it.
* `Act.onPart` — an action on a part of a larger state.
* `Act.attempt` — the outcome of an action as a result.
* `Handler` — an action for every call of an interface, with the reply that the call asks for.
-/

import Switchboard.Fault
import Switchboard.Time.Instant

namespace Switchboard

/-- A moment: the clock that lifetimes and schedules follow, in milliseconds, and the wall clock. -/
structure Moment where
  clock : Nat
  wall : Time.Instant
  deriving DecidableEq

/-- What happens at a moment, changes a state and may fail. -/
abbrev Act (σ : Type) := ReaderT Moment (ExceptT Fault (StateM σ))

namespace Act

variable {σ τ α : Type}

/-- The outcome of an action and the state after it. -/
def perform (action : Act σ α) (moment : Moment) (state : σ) : Except Fault α × σ :=
  ((action.run moment).run).run state

/-- The action with a given outcome. -/
def of (outcome : Moment → σ → Except Fault α × σ) : Act σ α :=
  fun moment => ExceptT.mk fun state => outcome moment state

@[simp]
theorem perform_of (outcome : Moment → σ → Except Fault α × σ) (moment : Moment) (state : σ) :
    (of outcome).perform moment state = outcome moment state := rfl

/-- An action on a part of a larger state. -/
def onPart (part : τ → σ) (replace : σ → τ → τ) (action : Act σ α) : Act τ α :=
  of fun moment state =>
    let (outcome, changed) := action.perform moment (part state)
    (outcome, replace changed state)

/-- The outcome of an action as a result: the action itself no longer fails. -/
def attempt (action : Act σ α) : Act σ (Except Fault α) :=
  of fun moment state =>
    let (outcome, changed) := action.perform moment state
    (.ok outcome, changed)

/-- The wall clock now. -/
def now : Act σ Time.Instant := return (← read).wall

/-- The clock of lifetimes now. -/
def clock : Act σ Nat := return (← read).clock

/-- A result or a fault that was found without looking at the state. -/
def lift (outcome : Except Fault α) : Act σ α := MonadExcept.ofExcept outcome

end Act

/-- An action for every call of an interface. -/
abbrev Handler {C : Type} (Reply : C → Type) (σ : Type) := (call : C) → Act σ (Reply call)

end Switchboard

/-
**Steps in a row.**

* `Outcome.bind_eq_ok` — two steps that may fail succeed only if both do.
* `Outcome.foldlM_keeps` — what every step keeps that succeeds, is kept by a fold of steps that succeeds.
* `repeat_keeps` — what a step keeps, is kept by repeating it.
-/

import Switchboard.Fault

namespace Switchboard

namespace Outcome

variable {ε α β : Type}

theorem bind_eq_ok {first : Except ε α} {next : α → Except ε β} {result : β} :
    first >>= next = .ok result ↔ ∃ value, first = .ok value ∧ next value = .ok result := by
  constructor
  · intro succeeds
    cases first with
    | error fault => cases succeeds
    | ok value => exact ⟨value, rfl, succeeds⟩
  · rintro ⟨value, rfl, rest⟩
    exact rest

/-- **What successful steps keep, a successful fold keeps.** -/
theorem foldlM_keeps (kept : β → Prop) {step : β → α → Except ε β} {values : List α}
    (keeps : ∀ before value after, value ∈ values → kept before → step before value = .ok after →
      kept after)
    {start finish : β} (begin : kept start) (folded : values.foldlM step start = .ok finish) :
    kept finish := by
  induction values generalizing start with
  | nil =>
    cases folded
    exact begin
  | cons value rest ih =>
    rw [List.foldlM_cons] at folded
    obtain ⟨between, stepped, remaining⟩ := bind_eq_ok.mp folded
    refine ih ?_ (keeps start value between List.mem_cons_self begin stepped) remaining
    exact fun before other after listed => keeps before other after (List.mem_cons_of_mem _ listed)

end Outcome

/-- **What a step keeps, repeating it keeps.** -/
theorem repeat_keeps {σ : Type} (kept : σ → Prop) {step : σ → σ}
    (keeps : ∀ state, kept state → kept (step state)) {start : σ} (begin : kept start) (times : Nat) :
    kept (Nat.repeat step times start) := by
  induction times with
  | zero => exact begin
  | succ times ih => exact keeps _ ih

end Switchboard

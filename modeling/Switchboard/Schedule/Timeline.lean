/-
**Things that happen as time passes.**

* `Timed` — a state with a next time at which something in it is due, and what happens when time has
  come: everything that is due then, and all that follows from it without the clock moving.
* `Timed.advance` — the state after the clock has moved to a time, everything due on the way having
  happened in the order of time.
* `Time.writeSpan` — a length of time as a text: nothing as `0ns`, less than a second in `ms`, anything longer in `s`
  with the decimals it needs.
-/

import Switchboard.Act
import Switchboard.Number.Integer

namespace Switchboard

/-- A state in which things are due. -/
class Timed (W : Type) where
  /-- The time at which the next thing is due. -/
  due? : W → Option Nat
  /-- Everything due at a moment, and what follows from it at once. -/
  run : Moment → W → W

namespace Timed

variable {W : Type} [Timed W]

/-- The state after the clock has moved from `now` to `target`; `wall` tells the time on the wall. -/
def advance (wall : Nat → Time.Instant) (now target : Nat) (world : W) : W :=
  if now < target then
    match due? world with
    | some time =>
      if time ≤ target then
        let next := max time (now + 1)
        advance wall next target (run ⟨next, wall next⟩ world)
      else world
    | none => world
  else world
termination_by target - now

end Timed

namespace Time

open Number (writeNat writePadded)

/-- The digits of a fraction of a second without trailing zeros. -/
def spanFraction (millis : Nat) : String :=
  if millis == 0 then ""
  else if millis % 100 == 0 then "." ++ writePadded 1 (millis / 100)
  else if millis % 10 == 0 then "." ++ writePadded 2 (millis / 10)
  else "." ++ writePadded 3 millis

/-- A number of milliseconds as a length of time. -/
def writeSpan (millis : Nat) : String :=
  if millis == 0 then "0ns"
  else if millis < 1000 then writeNat millis ++ "ms"
  else writeNat (millis / 1000) ++ spanFraction (millis % 1000) ++ "s"

end Time

end Switchboard

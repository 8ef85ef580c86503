/-
**The shortest decimal that reads back as a double.**

A positive finite double is `mantissa * 2 ^ exponent`. The reals that round to it form an interval
whose ends belong to it exactly when the mantissa is even. On each decimal grid `10 ^ k`, from coarse
to fine, only the two neighbours of the value can lie in that interval; the first grid with a
neighbour inside gives the shortest decimal, and of two neighbours inside the nearer one is taken.

* `Decimal` — a number of units of a power of ten.
* `Binary.ofBits` — mantissa and exponent of a positive finite double.
* `Binary.shortest` — the shortest decimal in the interval of a double.
-/

namespace Switchboard.Number

/-- The number `significand * 10 ^ exponent`. -/
structure Decimal where
  significand : Nat
  exponent : Int
  deriving DecidableEq, Repr

/-- Which neighbour is taken when a value lies halfway between two. -/
inductive TieRule where
  | up
  | toEven
  deriving DecidableEq, Repr

/-- The number `mantissa * 2 ^ exponent`; `narrow` tells that the next smaller double is only half
as far away as the next larger one. -/
structure Binary where
  mantissa : Nat
  exponent : Int
  narrow : Bool
  deriving DecidableEq, Repr

namespace Binary

/-- Mantissa and exponent of the positive finite double with the given bits (the sign is left out of
account). -/
def ofBits (bits : UInt64) : Binary :=
  let fraction : Nat := bits.toNat % Nat.pow 2 52
  let biased : Nat := bits.toNat / Nat.pow 2 52 % Nat.pow 2 11
  if biased == 0 then ⟨fraction, -1074, false⟩
  else ⟨Nat.pow 2 52 + fraction, (biased : Int) - 1075, fraction == 0 && 1 < biased⟩

/-- A double, its interval and the common denominator they are written over. -/
structure Interval where
  low : Nat
  value : Nat
  high : Nat
  denominator : Nat
  closed : Bool

/-- The interval of the reals that round to a double. -/
def interval (double : Binary) : Interval :=
  let scale := Nat.pow 2 (double.exponent - 2).toNat
  { low := (4 * double.mantissa - if double.narrow then 1 else 2) * scale
    value := 4 * double.mantissa * scale
    high := (4 * double.mantissa + 2) * scale
    denominator := Nat.pow 2 (2 - double.exponent).toNat
    closed := double.mantissa % 2 == 0 }

/-- The neighbour of the value on the grid `10 ^ exponent` that lies in the interval, if one does. -/
def Interval.onGrid (interval : Interval) (tie : TieRule) (exponent : Int) : Option Decimal :=
  let up := Nat.pow 10 (-exponent).toNat
  let unit := interval.denominator * Nat.pow 10 exponent.toNat
  let value := interval.value * up
  let below := value / unit
  let inside (point : Nat) : Bool :=
    let position := point * unit
    let low := interval.low * up
    let high := interval.high * up
    if interval.closed then low ≤ position && position ≤ high else low < position && position < high
  let choose (point : Nat) : Option Decimal := some ⟨point, exponent⟩
  match inside below, inside (below + 1) with
  | true, true =>
    let remainder := 2 * (value - below * unit)
    if remainder < unit then choose below
    else if unit < remainder then choose (below + 1)
    else match tie with
      | .up => choose (below + 1)
      | .toEven => choose (if below % 2 == 0 then below else below + 1)
  | true, false => choose below
  | false, true => choose (below + 1)
  | false, false => none

/-- The first decimal found on the grids from `exponent` downwards. -/
def Interval.search (interval : Interval) (tie : TieRule) : Nat → Int → Decimal
  | 0, exponent => ⟨0, exponent⟩
  | grids + 1, exponent =>
    (interval.onGrid tie exponent).getD (interval.search tie grids (exponent - 1))

/-- No digit of the decimal is a trailing zero. -/
def dropTrailingZeros : Nat → Decimal → Decimal
  | 0, decimal => decimal
  | steps + 1, decimal =>
    if decimal.significand != 0 && decimal.significand % 10 == 0 then
      dropTrailingZeros steps ⟨decimal.significand / 10, decimal.exponent + 1⟩
    else decimal

/-- The shortest decimal in the interval of a positive double. Seventeen digits always suffice, and
the first grid is at most two digits too coarse. -/
def shortest (tie : TieRule) (double : Binary) : Decimal :=
  let width : Int := (Nat.log2 double.mantissa : Int) + 1 + double.exponent
  let coarsest := Int.fdiv (width * 30103) 100000 + 1
  dropTrailingZeros 20 (double.interval.search tie 24 coarsest)

end Binary

end Switchboard.Number

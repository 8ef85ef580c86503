/-
**Doubles as texts.**

* `readDouble` — an optional sign, then `inf`, `infinity`, `nan` or a decimal with an optional point
  and exponent; the nearest double, halves to even.
* `writeDouble` — the shortest digits that read back, with a point where needed and never an
  exponent.
-/

import Switchboard.Number.Integer
import Switchboard.Number.Shortest
import Switchboard.Text.Blank

namespace Switchboard.Number

/-- The double with the largest finite magnitude is below `10 ^ 309`. -/
def largestExponent : Int := 310

/-- Half the smallest positive double is above `10 ^ -324`. -/
def smallestExponent : Int := -330

/-- The double nearest to `significand * 10 ^ exponent`. -/
def nearestDouble (significand : Nat) (exponent : Int) : Float :=
  let magnitude : Int := (Nat.toDigits 10 significand).length + exponent
  if significand == 0 || magnitude < smallestExponent then 0
  else if largestExponent < magnitude then Float.ofScientific 1 false 400
  else Float.ofScientific significand (exponent < 0) exponent.natAbs

/-- Why a text is no double. -/
inductive DoubleProblem where
  | empty
  | invalid
  deriving DecidableEq, Repr

/-- The wording of a problem. -/
def DoubleProblem.message : DoubleProblem → String
  | .empty => "cannot parse float from empty string"
  | .invalid => "invalid float literal"

/-- The number that a list of digits writes. -/
def digitsValue (digits : List Char) : Nat :=
  digits.foldl (fun number c => number * 10 + digitValue c) 0

/-- An exponent: nothing, or `e`, an optional sign and digits. -/
def readExponent : List Char → Option Int
  | [] => some 0
  | mark :: rest =>
    if mark == 'e' || mark == 'E' then
      let (negative, digits) := match rest with
        | '-' :: digits => (true, digits)
        | '+' :: digits => (false, digits)
        | digits => (false, digits)
      if digits.isEmpty || !digits.all Char.isDigit then none
      else
        let magnitude : Int := digitsValue digits
        some (if negative then -magnitude else magnitude)
    else none

/-- A decimal without sign. -/
def readMagnitude (chars : List Char) : Option Float :=
  let whole := chars.takeWhile Char.isDigit
  let (fraction, rest) := match chars.dropWhile Char.isDigit with
    | '.' :: rest => (rest.takeWhile Char.isDigit, rest.dropWhile Char.isDigit)
    | rest => ([], rest)
  if whole.isEmpty && fraction.isEmpty then none
  else (readExponent rest).map fun exponent =>
    nearestDouble (digitsValue (whole ++ fraction)) (exponent - fraction.length)

/-- A decimal, or a name of infinity or of the value that is no number. -/
def readUnsignedDouble (chars : List Char) : Option Float :=
  let name := String.ofList (chars.map Char.toLower)
  if name == "inf" || name == "infinity" then some (1 / 0)
  else if name == "nan" then some (0 / 0)
  else readMagnitude chars

/-- A double behind an optional sign. -/
def readDouble : List Char → Except DoubleProblem Float
  | [] => .error .empty
  | '-' :: rest => ((readUnsignedDouble rest).map fun double => -double).elim (.error .invalid) .ok
  | '+' :: rest => (readUnsignedDouble rest).elim (.error .invalid) .ok
  | chars => (readUnsignedDouble chars).elim (.error .invalid) .ok

/-- A decimal in positional notation. -/
def Decimal.positional (decimal : Decimal) : String :=
  let digits := Nat.toDigits 10 decimal.significand
  if 0 ≤ decimal.exponent then
    String.ofList (digits ++ List.replicate decimal.exponent.toNat '0')
  else
    let places := decimal.exponent.natAbs
    let padded := List.replicate (places + 1 - digits.length) '0' ++ digits
    String.ofList (padded.take (padded.length - places) ++ '.' :: padded.drop (padded.length - places))

/-- A double as text: a number that is no number is `NaN` without sign. -/
def writeDouble (double : Float) : String :=
  if double.isNaN then "NaN"
  else
    let sign := if double.toBits.toNat < Nat.pow 2 63 then "" else "-"
    if double.isInf then sign ++ "inf"
    else if double == 0 then sign ++ "0"
    else sign ++ ((Binary.ofBits double.toBits).shortest .up).positional

end Switchboard.Number

/-
**Numerals of JSON documents.**

A numeral with a fraction or an exponent, or with more digits than fit in 64 bits, is a double. Such a
double is found quickly rather than exactly: the leading digits that fit in 64 bits are rounded to a
double and multiplied or divided by a power of ten, so that the last bit may be off.

* `Numeral.value?` — the number of a numeral, unless it is beyond the doubles.
* `writeNumeral` — a double in its shortest digits, always with a point or an exponent.
-/

import Switchboard.Json.Tree

namespace Switchboard

/-- A numeral as it is written: digits, and the exponent with its sign. -/
structure Numeral where
  negative : Bool
  whole : List Char
  fraction : Option (List Char)
  exponent : Option (Bool × List Char)

namespace Numeral

open Switchboard.Number (digitValue digitsValue unsignedMax signedMax)

/-- A digit appended to a number, if the result fits in 64 bits. -/
def append? (number : Nat) (c : Char) : Option Nat :=
  let longer := number * 10 + digitValue c
  if longer ≤ unsignedMax then some longer else none

/-- The leading digits that fit in 64 bits, and the digits after them. -/
def leading : (number : Nat) → List Char → Nat × List Char
  | number, [] => (number, [])
  | number, c :: rest =>
    match append? number c with
    | some longer => leading longer rest
    | none => (number, c :: rest)

/-- The largest power of ten that is a double. -/
def largestPower : Nat := 308

/-- A power of ten as a double. -/
def powerOfTen (exponent : Nat) : Float := Float.ofScientific 1 false exponent

/-- A double times a power of ten, unless it is beyond the doubles. A power below the smallest is
divided off in steps. -/
def scale : (steps : Nat) → Float → Int → Option Float
  | 0, double, _ => some double
  | steps + 1, double, exponent =>
    if exponent.natAbs ≤ largestPower then
      if 0 ≤ exponent then
        let scaled := double * powerOfTen exponent.natAbs
        if scaled.isInf then none else some scaled
      else some (double / powerOfTen exponent.natAbs)
    else if double == 0 then some double
    else if 0 ≤ exponent then none
    else scale steps (double / powerOfTen largestPower) (exponent + largestPower)

/-- The largest exponent that is taken at its word. -/
def exponentMax : Nat := Nat.pow 2 31 - 1

/-- The exponent of a numeral, unless its digits are too many. -/
def exponent? : Option (Bool × List Char) → Option Int
  | none => some 0
  | some (negative, digits) =>
    let magnitude := digitsValue digits
    if magnitude ≤ exponentMax then some (if negative then -(magnitude : Int) else magnitude) else none

/-- The magnitude of a numeral that is no integer of 64 bits. -/
def double? (numeral : Numeral) : Option Float :=
  let (whole, wholeRest) := leading 0 numeral.whole
  let (significand, places) := match numeral.fraction with
    | some digits =>
      let (significand, rest) := leading whole digits
      (significand, digits.length - rest.length)
    | none => (whole, 0)
  let shift : Int := wholeRest.length - places
  match exponent? numeral.exponent with
  | some exponent => scale 8 (Float.ofNat significand) (shift + exponent)
  | none =>
    let shrinks := numeral.exponent.any fun (negative, _) => negative
    if significand == 0 || shrinks then some 0 else none

/-- A double behind its sign. -/
def signed (negative : Bool) (double : Float) : Number := .double (if negative then -double else double)

/-- The number of a numeral, unless it is beyond the doubles. A negative numeral below the integers of
64 bits, and the negative zero, are doubles. -/
def value? (numeral : Numeral) : Option Number :=
  let (whole, rest) := leading 0 numeral.whole
  if rest.isEmpty && numeral.fraction.isNone && numeral.exponent.isNone then
    if !numeral.negative then some (.integer whole)
    else if 0 < whole && whole ≤ signedMax + 1 then some (.integer (-(whole : Int)))
    else some (signed true (Float.ofNat whole))
  else numeral.double?.map (signed numeral.negative)

end Numeral

/-- Digits with a point after the first one and an exponent, if there is more than one digit. -/
def writeScientific (digits : List Char) (exponent : Int) : String :=
  match digits with
  | [] => ""
  | [digit] => String.ofList [digit] ++ "e" ++ Number.writeInt exponent
  | digit :: rest => String.ofList (digit :: '.' :: rest) ++ "e" ++ Number.writeInt exponent

/-- A double in its shortest digits: positional with a point if the point is at most five places
before or sixteen places after the first digit, with an exponent otherwise. -/
def writeNumeral (double : Float) : String :=
  let sign := if double.toBits.toNat < Nat.pow 2 63 then "" else "-"
  if double == 0 then sign ++ "0.0"
  else
    let decimal := (Number.Binary.ofBits double.toBits).shortest .toEven
    let digits := Nat.toDigits 10 decimal.significand
    let point : Int := digits.length + decimal.exponent
    sign ++
      if 0 ≤ decimal.exponent && point ≤ 16 then decimal.positional ++ ".0"
      else if -5 < point && point ≤ 16 then decimal.positional
      else writeScientific digits (point - 1)

end Switchboard

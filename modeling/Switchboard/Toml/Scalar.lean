/-
**Bare values of TOML documents.**

A value without marks around it is a truth value, an integer within 64 bits, a double, or a date, a
time or both. Digits may be grouped by underscores, each between two digits; an integer has no zero in
front and may be written in base 16, 8 or 2.

* `readBare` — such a value.
-/

import Switchboard.Json.Tree
import Switchboard.Time.Rfc3339

namespace Switchboard.Toml

open Switchboard.Number (digitValue signedMax readSigned readDouble)

/-! ### Numbers -/

/-- Digits of a kind, grouped by underscores. -/
def isGrouped (isDigit : Char → Bool) : List Char → Bool
  | [] => false
  | [c] => isDigit c
  | c :: '_' :: rest => isDigit c && isGrouped isDigit rest
  | c :: rest => isDigit c && isGrouped isDigit rest

/-- Characters without the underscores among them. -/
def ungrouped (chars : List Char) : List Char := chars.filter (· != '_')

/-- Characters without a sign in front. -/
def unsigned : List Char → List Char
  | '+' :: rest => rest
  | '-' :: rest => rest
  | chars => chars

/-- Digits of an integer: grouped, with no zero in front of others. -/
def isWhole (chars : List Char) : Bool :=
  isGrouped Char.isDigit chars && (chars.head? != some '0' || chars.length == 1)

/-- The bases beside ten, by the letter that names them. -/
def base? : Char → Option Nat
  | 'x' => some 16
  | 'o' => some 8
  | 'b' => some 2
  | _ => none

/-- The value of a digit in a base. -/
def digitIn? (base : Nat) (c : Char) : Option Nat :=
  let value :=
    if c.isDigit then c.toNat - '0'.toNat
    else if c.isAlpha then c.toLower.toNat - 'a'.toNat + 10
    else base
  if value < base then some value else none

/-- An integer in a base that its second character names. -/
def readBased? : List Char → Option Int
  | '0' :: letter :: digits => do
    let base ← base? letter
    if !isGrouped (fun c => (digitIn? base c).isSome) digits then none
    let value := ((ungrouped digits).filterMap (digitIn? base)).foldl
      (fun number digit => number * base + digit) 0
    if value ≤ signedMax then some value else none
  | _ => none

/-- An integer in base ten. -/
def readInteger? (chars : List Char) : Option Int :=
  if isWhole (unsigned chars) then
    match readSigned (ungrouped chars) with
    | .ok number => some number.toInt
    | .error _ => none
  else none

/-- The mark of an exponent. -/
def isExponentMark (c : Char) : Bool := c == 'e' || c == 'E'

/-- A number with a fraction, an exponent or both. -/
def isFractional (chars : List Char) : Bool :=
  let mantissa := chars.takeWhile (!isExponentMark ·)
  let exponent := chars.drop mantissa.length
  let whole := mantissa.takeWhile (· != '.')
  let fraction := mantissa.drop whole.length
  isWhole whole && !(fraction.isEmpty && exponent.isEmpty) &&
    (fraction.isEmpty || isGrouped Char.isDigit (fraction.drop 1)) &&
    (exponent.isEmpty || isGrouped Char.isDigit (unsigned (exponent.drop 1)))

/-- A double; the name of infinity aside, it may not lie above the range of doubles. -/
def readDouble? (chars : List Char) : Option Float :=
  let name := unsigned chars
  match readDouble (ungrouped chars) with
  | .ok number =>
    if name = ['i', 'n', 'f'] ∨ name = ['n', 'a', 'n'] then some number
    else if isFractional name ∧ !(number.isInf && 0 < number) then some number
    else none
  | .error _ => none

/-! ### Dates and times -/

/-- An offset from universal time of less than a day. -/
def scanZone : Time.Scan Unit := do
  let offset ← Time.scanOffset (Time.scanMark (· == ':'))
  if Time.secondsPerDay.toNat ≤ offset.natAbs then throw .outOfRange

/-- A date, which may be followed by a time, and that by an offset. -/
def scanMoment : Time.Scan Unit := do
  let _ ← Time.scanDate
  if !(← get).isEmpty then
    Time.scanMark fun c => c == 'T' || c == 't' || c == ' '
    let _ ← Time.scanTime
    if !(← get).isEmpty then scanZone

/-- A time of the day. -/
def scanClock : Time.Scan Unit := do
  let _ ← Time.scanTime

/-- A reader consumes all characters. -/
def readsAll (scan : Time.Scan Unit) (chars : List Char) : Bool :=
  match scan.run chars with
  | .ok (_, []) => true
  | _ => false

/-- A date, a time or both. -/
def isMoment (chars : List Char) : Bool := readsAll scanMoment chars || readsAll scanClock chars

/-! ### Bare values -/

/-- The value of a bare word. Among documents a date has no form of its own: it stands as an object
whose members nobody knows. -/
def bareValue? (chars : List Char) : Option Json :=
  if chars = "true".toList then some (.bool true)
  else if chars = "false".toList then some (.bool false)
  else if isMoment chars then some (.object [])
  else match readBased? chars, readInteger? chars with
    | some number, _ | none, some number => some (.ofInt number)
    | none, none => (readDouble? chars).map fun number => .number (some (.double number))

/-- A character of a bare value. -/
def isBareChar (c : Char) : Bool :=
  c.isAlphanum || c == '_' || c == '-' || c == '+' || c == '.' || c == ':'

/-- A bare value; a blank may stand between a date and a time. -/
def readBare (chars : List Char) : Option (Json × List Char) := do
  let first := chars.takeWhile isBareChar
  let rest := chars.drop first.length
  let joined := match rest with
    | ' ' :: more => first ++ ' ' :: more.takeWhile isBareChar
    | _ => first
  if readsAll scanMoment joined then pure (.object [], chars.drop joined.length)
  else pure (← bareValue? first, rest)

end Switchboard.Toml

/-
**Instants as texts in the form of RFC 3339.**

* `Instant.write` — universal time, a fraction of 0, 3, 6 or 9 digits (the fewest that are exact),
  years outside 0 to 9999 behind a sign.
* `readInstant` — the strict form: every field has its full width and an offset ends the text. Of
  several faults the first in reading order counts; the fields of the date are judged before the time
  is read, and those of the time before the offset.
* `readInstantLeniently?` — fields may be short and blanks may stand before them; an offset is still
  needed.
-/

import Switchboard.Number.DoubleText
import Switchboard.Time.Instant

namespace Switchboard.Time

open Switchboard.Number (digitValue digitsValue writeNat writePadded)

/-! ### Writing -/

/-- A year in four digits, or behind a sign with at least four digits. -/
def writeYear (year : Int) : String :=
  if 0 ≤ year && year ≤ 9999 then writePadded 4 year.toNat
  else (if year < 0 then "-" else "+") ++ writePadded 4 year.natAbs

/-- The fraction of a second in the fewest of 0, 3, 6 or 9 digits. -/
def writeFraction (nanos : Nat) : String :=
  if nanos == 0 then ""
  else if nanos % 1000000 == 0 then "." ++ writePadded 3 (nanos / 1000000)
  else if nanos % 1000 == 0 then "." ++ writePadded 6 (nanos / 1000)
  else "." ++ writePadded 9 nanos

/-- An instant in universal time, followed by a name of the offset zero. -/
def Instant.write (zone : String) (instant : Instant) : String :=
  let date := instant.date
  let second := instant.secondOfDay
  writeYear date.year ++ "-" ++ writePadded 2 date.month ++ "-" ++ writePadded 2 date.day ++ "T" ++
    writePadded 2 (second / 3600) ++ ":" ++ writePadded 2 (second / 60 % 60) ++ ":" ++
    writePadded 2 (second % 60 + instant.nanos / nanosPerSecond) ++
    writeFraction (instant.nanos % nanosPerSecond) ++ zone

/-- The text of an instant with the offset in digits. -/
def Instant.text (instant : Instant) : String := instant.write "+00:00"

/-! ### Reading the strict form -/

/-- Why a text is no date. -/
inductive DateProblem where
  | outOfRange
  | invalidCharacters
  | prematureEnd
  | trailingInput
  deriving DecidableEq, Repr

/-- The wording of a problem. -/
def DateProblem.message : DateProblem → String
  | .outOfRange => "input is out of range"
  | .invalidCharacters => "input contains invalid characters"
  | .prematureEnd => "premature end of input"
  | .trailingInput => "trailing input"

/-- A reader that consumes characters from the front. -/
abbrev Scan := StateT (List Char) (Except DateProblem)

/-- One character of a kind. -/
def scanMark (accepted : Char → Bool) : Scan Unit := do
  match ← get with
  | [] => throw .prematureEnd
  | c :: rest => if accepted c then set rest else throw .invalidCharacters

/-- So many digits behind a number read so far. -/
def scanDigitsFrom : (width number : Nat) → Scan Nat
  | 0, number => pure number
  | width + 1, number => do
    match ← get with
    | [] => throw .prematureEnd
    | c :: rest =>
      if c.isDigit then
        set rest
        scanDigitsFrom width (number * 10 + digitValue c)
      else throw .invalidCharacters

/-- A number of exactly so many digits. -/
def scanDigits (width : Nat) : Scan Nat := scanDigitsFrom width 0

/-- The number of bytes of characters in UTF-8. -/
def byteCount (chars : List Char) : Nat := chars.foldl (fun count char => count + char.utf8Size) 0

/-- Two digits of an offset. -/
def scanOffsetDigits : Scan (Nat × Nat) := do
  let chars ← get
  if byteCount chars < 2 then throw .prematureEnd
  match chars with
  | tens :: ones :: rest =>
    if tens.isDigit && ones.isDigit then
      set rest
      pure (digitValue tens, digitValue ones)
    else throw .invalidCharacters
  | _ => throw .invalidCharacters

/-- Nanoseconds from the digits after a point; digits after the ninth are dropped. -/
def nanosOfDigits (digits : List Char) : Nat :=
  digitsValue ((digits ++ List.replicate 9 '0').take 9)

/-- The fraction of a second, if a point follows. -/
def scanFraction : Scan Nat := do
  match ← get with
  | '.' :: rest =>
    match rest with
    | [] => throw .prematureEnd
    | c :: _ =>
      if c.isDigit then
        set (rest.dropWhile Char.isDigit)
        pure (nanosOfDigits (rest.takeWhile Char.isDigit))
      else throw .invalidCharacters
  | _ => pure 0

/-- Hours and minutes of an offset, with what stands between them. -/
def scanOffsetTime (separator : Scan Unit) : Scan Int := do
  let (hourTens, hourOnes) ← scanOffsetDigits
  separator
  let (minuteTens, minuteOnes) ← scanOffsetDigits
  if 5 < minuteTens then throw .outOfRange
  pure (((hourTens * 10 + hourOnes) * 3600 + (minuteTens * 10 + minuteOnes) * 60 : Nat) : Int)

/-- The offset from universal time in seconds: `Z`, or a sign, hours and minutes. -/
def scanOffset (separator : Scan Unit) : Scan Int := do
  match ← get with
  | [] => throw .prematureEnd
  | c :: rest =>
    if c == 'Z' || c == 'z' then
      set rest
      pure 0
    else if c == '+' then
      set rest
      scanOffsetTime separator
    else if c == '-' || c == '\u2212' then
      set rest
      return -(← scanOffsetTime separator)
    else throw .invalidCharacters

/-- A time of the day: second 60 is the leap second of any minute. -/
structure TimeOfDay where
  hour : Nat
  minute : Nat
  second : Nat
  nanos : Nat

/-- The day has this time. -/
def TimeOfDay.exists? (time : TimeOfDay) : Bool :=
  time.hour ≤ 23 && time.minute ≤ 59 && time.second ≤ 60

/-- The instant of a local date and time at an offset from universal time: the local date itself has
to lie in the years of instants. -/
def instantOfLocal? (date : Date) (time : TimeOfDay) (offset : Int) : Option Instant :=
  let second : Int := time.hour * 3600 + time.minute * 60 + min time.second 59
  let nanos := if time.second == 60 then time.nanos + nanosPerSecond else time.nanos
  if date.isInRange && offset.natAbs < secondsPerDay.toNat then
    Instant.of? (date.dayNumber * secondsPerDay + second - offset) nanos
  else none

/-- Year, month and day in full width, of a day that exists. -/
def scanDate : Scan Date := do
  let year ← scanDigits 4
  scanMark (· == '-')
  let month ← scanDigits 2
  scanMark (· == '-')
  let day ← scanDigits 2
  let date : Date := ⟨year, month, day⟩
  if date.exists? then pure date else throw .outOfRange

/-- Hour, minute and second in full width and a fraction, of a time that exists. -/
def scanTime : Scan TimeOfDay := do
  let hour ← scanDigits 2
  scanMark (· == ':')
  let minute ← scanDigits 2
  scanMark (· == ':')
  let second ← scanDigits 2
  let nanos ← scanFraction
  let time : TimeOfDay := ⟨hour, minute, second, nanos⟩
  if time.exists? then pure time else throw .outOfRange

/-- A whole text in the strict form. -/
def scanInstant : Scan Instant := do
  if byteCount (← get) < 19 then throw .prematureEnd
  let date ← scanDate
  scanMark fun c => c == 'T' || c == 't' || c == ' '
  let time ← scanTime
  let offset ← scanOffset (scanMark (· == ':'))
  if !(← get).isEmpty then throw .trailingInput
  match instantOfLocal? date time offset with
  | some instant => pure instant
  | none => throw .outOfRange

/-- The instant that a text in the strict form names. -/
def readInstant (text : String) : Except DateProblem Instant :=
  (scanInstant.run text.toList).map (·.1)

/-! ### Reading leniently -/

/-- Blanks before what follows. -/
def skipBlanks : Scan Unit := modify (·.dropWhile Text.isBlank)

/-- A number of one digit up to a width, behind blanks. -/
def scanShort (width : Nat) : Scan Nat := do
  skipBlanks
  let chars ← get
  let digits := (chars.take width).takeWhile Char.isDigit
  if digits.isEmpty then throw .invalidCharacters
  set (chars.drop digits.length)
  pure (digitsValue digits)

/-- A year: up to four digits, or a sign and any number of digits. -/
def scanLenientYear : Scan Int := do
  skipBlanks
  let signed (rest : List Char) : Scan Int := do
    let digits := rest.takeWhile Char.isDigit
    if digits.isEmpty then throw .invalidCharacters
    set (rest.dropWhile Char.isDigit)
    pure (digitsValue digits : Int)
  match ← get with
  | '-' :: rest => return -(← signed rest)
  | '+' :: rest => signed rest
  | _ => return (← scanShort 4 : Nat)

/-- A separator behind blanks. -/
def scanSeparator (separator : Char) : Scan Unit := do
  skipBlanks
  scanMark (· == separator)

/-- The three letters of universal time in any case, or an offset. -/
def scanLenientOffset : Scan Int := do
  let chars ← get
  if (chars.take 3).map Char.toLower == ['u', 't', 'c'] then
    set (chars.drop 3)
    pure 0
  else scanOffset (modify (·.dropWhile fun c => c == ':' || Text.isBlank c))

/-- A whole text in the lenient form. -/
def scanLenientInstant : Scan Instant := do
  let year ← scanLenientYear
  scanSeparator '-'
  let month ← scanShort 2
  scanSeparator '-'
  let day ← scanShort 2
  let date : Date := ⟨year, month, day⟩
  scanMark fun c => c == 'T' || c == 't' || c == ' '
  let hour ← scanShort 2
  scanSeparator ':'
  let minute ← scanShort 2
  scanSeparator ':'
  let second ← scanShort 2
  let nanos ← scanFraction
  let time : TimeOfDay := ⟨hour, minute, second, nanos⟩
  skipBlanks
  let offset ← scanLenientOffset
  skipBlanks
  if !(← get).isEmpty then throw .trailingInput
  if !(date.exists? && time.exists?) then throw .outOfRange
  match instantOfLocal? date time offset with
  | some instant => pure instant
  | none => throw .outOfRange

/-- The instant that a text in the lenient form names. -/
def readInstantLeniently? (text : String) : Option Instant :=
  (scanLenientInstant.run text.toList).toOption.map (·.1)

end Switchboard.Time

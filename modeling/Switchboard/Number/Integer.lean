/-
**Reading and writing integers of 64 bits.**

* `IntegerProblem` — why a text is no integer.
* `readDigits` — decimal digits under a limit; whichever of a wrong character and an excess comes
  first, going left to right, is the problem.
* `readSigned`, `readUnsigned` — an optional sign, then digits within 64 bits.
* `writeInt` — the decimal digits of an integer behind its sign.
-/

namespace Switchboard.Number

/-- Why a text is no integer. -/
inductive IntegerProblem where
  | empty
  | invalidDigit
  | tooLarge
  | tooSmall
  deriving DecidableEq, Repr

/-- The wording of a problem. -/
def IntegerProblem.message : IntegerProblem → String
  | .empty => "cannot parse integer from empty string"
  | .invalidDigit => "invalid digit found in string"
  | .tooLarge => "number too large to fit in target type"
  | .tooSmall => "number too small to fit in target type"

/-- The value of a decimal digit. -/
def digitValue (c : Char) : Nat := c.toNat - '0'.toNat

/-- The digits that follow a number read so far, as long as the number stays within `limit`. -/
def readDigits (limit : Nat) (excess : IntegerProblem) : Nat → List Char → Except IntegerProblem Nat
  | number, [] => .ok number
  | number, c :: rest =>
    if c.isDigit then
      let longer := number * 10 + digitValue c
      if longer ≤ limit then readDigits limit excess longer rest else .error excess
    else .error .invalidDigit

/-- Digits of which there is at least one. -/
def readSomeDigits (limit : Nat) (excess : IntegerProblem) :
    List Char → Except IntegerProblem Nat
  | [] => .error .invalidDigit
  | digits => readDigits limit excess 0 digits

/-- The largest signed integer of 64 bits. -/
def signedMax : Nat := Nat.pow 2 63 - 1

/-- The largest unsigned integer of 64 bits. -/
def unsignedMax : Nat := Nat.pow 2 64 - 1

/-- An optional sign and digits, within the signed integers of 64 bits. -/
def readSigned : List Char → Except IntegerProblem Int64
  | [] => .error .empty
  | '-' :: digits =>
    (readSomeDigits (signedMax + 1) .tooSmall digits).map fun number => Int64.ofInt (-(number : Int))
  | '+' :: digits => (readSomeDigits signedMax .tooLarge digits).map Int64.ofNat
  | digits => (readSomeDigits signedMax .tooLarge digits).map Int64.ofNat

/-- An optional plus sign and digits, within the unsigned integers of 64 bits. -/
def readUnsigned : List Char → Except IntegerProblem UInt64
  | [] => .error .empty
  | '+' :: digits => (readSomeDigits unsignedMax .tooLarge digits).map UInt64.ofNat
  | digits => (readSomeDigits unsignedMax .tooLarge digits).map UInt64.ofNat

/-- The decimal digits of a number. -/
def writeNat (number : Nat) : String := String.ofList (Nat.toDigits 10 number)

/-- The decimal digits of an integer, behind a minus sign if it is negative. -/
def writeInt (number : Int) : String :=
  if number < 0 then "-" ++ writeNat number.natAbs else writeNat number.natAbs

/-- The decimal digits of a number, behind zeros up to a width. -/
def writePadded (width number : Nat) : String :=
  let digits := Nat.toDigits 10 number
  String.ofList (List.replicate (width - digits.length) '0' ++ digits)

end Switchboard.Number

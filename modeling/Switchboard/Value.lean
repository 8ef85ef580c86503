/-
**Typed values.**

* `Value` — a text, a truth value, an integer, a double or an instant.
* `Value.shown` — the text that shows a value.
* `Value.readLike` — a value of the type of another one, read from a text without the blanks at its
  ends; truth values have several spellings.
* `Value.agrees` — equality as the types define it: a double that is no number agrees with nothing.
-/

import Switchboard.Number.DoubleText
import Switchboard.Time.Rfc3339

namespace Switchboard

/-- A value of one of five types. -/
inductive Value where
  | text (text : String)
  | bool (truth : Bool)
  | int (number : Int64)
  | double (number : Float)
  | date (instant : Time.Instant)
  deriving DecidableEq

/-- The types of values. -/
inductive ValueType where
  | text
  | bool
  | int
  | double
  | date
  deriving DecidableEq, Repr

/-- The name of a type. -/
def ValueType.name : ValueType → String
  | .text => "string"
  | .bool => "bool"
  | .int => "int"
  | .double => "double"
  | .date => "date"

/-- Why a text is no value of a type. -/
inductive ValueProblem where
  | notBool (text : String)
  | notInt (text : String) (problem : Number.IntegerProblem)
  | notDouble (text : String) (problem : Number.DoubleProblem)
  | notDate (text : String) (problem : Time.DateProblem)
  deriving DecidableEq, Repr

/-- The wording of a problem. -/
def ValueProblem.message : ValueProblem → String
  | .notBool text => "'" ++ text ++ "' is not a bool"
  | .notInt text problem => "'" ++ text ++ "' is not an int: " ++ problem.message
  | .notDouble text problem => "'" ++ text ++ "' is not a double: " ++ problem.message
  | .notDate text problem => "'" ++ text ++ "' is not an RFC 3339 date: " ++ problem.message

/-- The truth value that a word in lower case spells. -/
def truthOfWord? (word : String) : Option Bool :=
  if ["true", "1", "yes", "on"].contains word then some true
  else if ["false", "0", "no", "off"].contains word then some false
  else none

/-- The word for a truth value. -/
def truthWord (truth : Bool) : String := if truth then "true" else "false"

namespace Value

/-- The type of a value. -/
def type : Value → ValueType
  | text _ => .text
  | bool _ => .bool
  | int _ => .int
  | double _ => .double
  | date _ => .date

/-- The text that shows a value. -/
def shown : Value → String
  | text content => content
  | bool truth => truthWord truth
  | int number => Number.writeInt number.toInt
  | double number => Number.writeDouble number
  | date instant => instant.text

/-- A value of a type, read from a text without blanks at its ends. -/
def readTrimmed (type : ValueType) (content : String) : Except ValueProblem Value :=
  match type with
  | .text => .ok (.text content)
  | .bool =>
    match truthOfWord? (Text.lower content) with
    | some truth => .ok (.bool truth)
    | none => .error (.notBool content)
  | .int => ((Number.readSigned content.toList).map int).mapError (.notInt content)
  | .double => ((Number.readDouble content.toList).map double).mapError (.notDouble content)
  | .date => ((Time.readInstant content).map date).mapError (.notDate content)

/-- A value of the type of another one, read from a text. -/
def readLike (like : Value) (raw : String) : Except ValueProblem Value :=
  readTrimmed like.type (Text.trim raw)

/-- The text of a text value. -/
def asText? : Value → Option String
  | text content => some content
  | _ => none

/-- The truth of a truth value. -/
def asBool? : Value → Option Bool
  | bool truth => some truth
  | _ => none

/-- The number of an integer value. -/
def asInt? : Value → Option Int64
  | int number => some number
  | _ => none

/-- The number of a double value, or the double nearest to an integer value. -/
def asDouble? : Value → Option Float
  | double number => some number
  | int number => some (Float.ofInt number.toInt)
  | _ => none

/-- The instant of a date value. -/
def asDate? : Value → Option Time.Instant
  | date instant => some instant
  | _ => none

/-- Equality of values: doubles are compared as numbers. -/
def agrees : Value → Value → Bool
  | double left, double right => left == right
  | left, right => left = right

end Value

end Switchboard

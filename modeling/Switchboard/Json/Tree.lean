/-
**JSON documents.**

* `Json` — a document as a tree. The members of an object keep their order and their repetitions. A
  number beyond the range of doubles and a text with half a surrogate pair are kept as `none`: such a
  literal is well formed, but it stands for nothing and is refused wherever it is looked at.
* `Json.mapDoubles` — a document with something in place of every double.
* `Number` — an integer of 64 bits, signed or not, or a double.
-/

import Switchboard.Number.DoubleText

namespace Switchboard

/-- A number of a document. -/
inductive Number where
  | integer (value : Int)
  | double (value : Float)
  deriving DecidableEq

/-- A document as a tree. -/
inductive Json where
  | null
  | bool (truth : Bool)
  | number (value : Option Number)
  | text (content : Option String)
  | array (items : List Json)
  | object (members : List (Option String × Json))
  deriving Inhabited

namespace Json

/-- A text. -/
def ofString (content : String) : Json := .text (some content)

/-- An integer. -/
def ofInt (value : Int) : Json := .number (some (.integer value))

/-- A natural number. -/
def ofNat (value : Nat) : Json := ofInt value

/-- A double; one that is not finite has no number and is written as null. -/
def ofDouble (value : Float) : Json :=
  if value.isFinite then .number (some (.double value)) else .null

/-- Nothing as null. -/
def ofOption {α : Type} (encode : α → Json) : Option α → Json
  | some value => encode value
  | none => .null

/-- An object with the members of a list. -/
def ofMembers (members : List (String × Json)) : Json :=
  .object (members.map fun (name, value) => (some name, value))

/-- The content of a text. -/
def asString? : Json → Option String
  | text content => content
  | _ => none

/-- The truth of a truth value. -/
def asBool? : Json → Option Bool
  | bool truth => some truth
  | _ => none

/-- The value of an integer. -/
def asInt? : Json → Option Int
  | number (some (.integer value)) => some value
  | _ => none

/-- The value of a number as a double. -/
def asDouble? : Json → Option Float
  | number (some (.double value)) => some value
  | number (some (.integer value)) => some (Float.ofInt value)
  | _ => none

/-- The value of an integer of 64 bits without sign. -/
def asUInt64? (json : Json) : Option UInt64 :=
  json.asInt?.bind fun value =>
    if 0 ≤ value ∧ value.toNat ≤ Number.unsignedMax then some (UInt64.ofNat value.toNat) else none

/-- The value of an integer of 64 bits with sign. -/
def asInt64? (json : Json) : Option Int64 :=
  json.asInt?.bind fun value =>
    if -((Number.signedMax : Int) + 1) ≤ value ∧ value ≤ Number.signedMax then some (Int64.ofInt value)
    else none

/-- The items of an array. -/
def asArray? : Json → Option (List Json)
  | array items => some items
  | _ => none

/-- The members of an object whose names are all texts. -/
def asObject? : Json → Option (List (String × Json))
  | object members => members.mapM fun (name, value) => name.map fun name => (name, value)
  | _ => none

mutual

/-- A document with something in place of every double. -/
def mapDoubles (replace : Float → Json) : Json → Json
  | number (some (.double value)) => replace value
  | array items => .array (mapItemDoubles replace items)
  | object members => .object (mapMemberDoubles replace members)
  | json => json

/-- Items with something in place of every double. -/
def mapItemDoubles (replace : Float → Json) : List Json → List Json
  | [] => []
  | item :: rest => mapDoubles replace item :: mapItemDoubles replace rest

/-- Members with something in place of every double. -/
def mapMemberDoubles (replace : Float → Json) :
    List (Option String × Json) → List (Option String × Json)
  | [] => []
  | (name, item) :: rest => (name, mapDoubles replace item) :: mapMemberDoubles replace rest

end

end Json

end Switchboard

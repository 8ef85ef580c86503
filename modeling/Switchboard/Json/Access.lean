/-
**Members of JSON documents.**

Looking into an object by the names of its members. A missing member counts as null, and null as
nothing: no text, no truth, no items. Of members of one name the last counts.

* `Json.member` — a member; `Json.textAt`, `Json.truthAt`, `Json.natAt`, `Json.itemsAt` — its content.
* `Json.sortedMembers` — all members in the order of their names.
-/

import Switchboard.Json.Tree
import Switchboard.Table

namespace Switchboard.Json

/-- The member of a name, or null. -/
def member (json : Json) (name : String) : Json :=
  match json.asObject? with
  | some members => (members.reverse.lookup name).getD .null
  | none => .null

/-- A member of the name is there and not null. -/
def holds (json : Json) (name : String) : Bool :=
  match json.member name with
  | .null => false
  | _ => true

/-- The text under a name. -/
def textAt? (json : Json) (name : String) : Option String := (json.member name).asString?

/-- The text under a name, or the empty one. -/
def textAt (json : Json) (name : String) : String := (json.textAt? name).getD ""

/-- The truth value under a name, or false. -/
def truthAt (json : Json) (name : String) : Bool := ((json.member name).asBool?).getD false

/-- The number under a name. -/
def natAt? (json : Json) (name : String) : Option Nat :=
  ((json.member name).asUInt64?).map UInt64.toNat

/-- The number under a name, or zero. -/
def natAt (json : Json) (name : String) : Nat := (json.natAt? name).getD 0

/-- The items under a name. -/
def itemsAt (json : Json) (name : String) : List Json := ((json.member name).asArray?).getD []

/-- The texts among the items under a name. -/
def textsAt (json : Json) (name : String) : List String := (json.itemsAt name).filterMap asString?

/-- The members in the order of their names. -/
def sortedMembers (json : Json) : List (String × Json) :=
  ((json.asObject?.getD []).foldl (fun (table : Table Json) (name, value) =>
    table.insert name value) ∅).toList

/-- The texts among the members, under their names. -/
def textTable (json : Json) : Table String :=
  json.sortedMembers.foldl (fun table (name, value) =>
    match value.asString? with
    | some content => table.insert name content
    | none => table) ∅

end Switchboard.Json

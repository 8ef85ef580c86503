/-
**Audit events as JSON documents.**

* `EventId` — a universally unique identifier: sixteen bytes, written as 32 hexadecimal digits in
  groups of 8, 4, 4, 4 and 12.
* `IdentifiedEvent` — an event with its identifier, with a writer `toJson` and a reader `ofJson?`.
-/

import Switchboard.Delivery.Event
import Switchboard.Json.Reader
import Switchboard.Wire.Entities

namespace Switchboard

open Json (ofString ofOption ofMembers ofTable)

/-- An identifier of sixteen bytes. -/
structure EventId where
  digits : List Char
  deriving DecidableEq, Repr

namespace EventId

/-- The sizes of the groups of digits. -/
def groupSizes : List Nat := [8, 4, 4, 4, 12]

/-- Digits cut into groups. -/
def groups : List Nat → List Char → List (List Char)
  | [], _ => []
  | size :: sizes, digits => digits.take size :: groups sizes (digits.drop size)

/-- An identifier with a hyphen between two groups. -/
def write (id : EventId) : String :=
  Text.join "-" ((groups groupSizes id.digits).map String.ofList)

/-- The digits of a text in the form with hyphens. -/
def readHyphenated? (chars : List Char) : Option (List Char) :=
  let digits := chars.filter fun c => c != '-'
  if chars = (write ⟨digits⟩).toList then some digits else none

/-- Characters without the braces around them. -/
def inBraces? (chars : List Char) : Option (List Char) :=
  if chars.head? = some '\x7b' && chars.getLast? = some '\x7d' then some chars.tail.dropLast else none

/-- The name of the namespace of identifiers. -/
def namespaceName : List Char := "urn:uuid:".toList

/-- Characters without the name of the namespace before them, which may be in any case. -/
def behindNamespace? (chars : List Char) : Option (List Char) :=
  if (chars.take namespaceName.length).map Char.toLower = namespaceName then
    some (chars.drop namespaceName.length)
  else none

/-- The identifier that a text names: digits alone or with hyphens, the latter also in braces or
behind the name of their namespace. -/
def read? (content : String) : Option EventId := do
  let chars := content.toList
  let digits ←
    if chars.length = 32 then some chars
    else if chars.length = 36 then readHyphenated? chars
    else if chars.length = 38 then (inBraces? chars).bind readHyphenated?
    else (behindNamespace? chars).bind readHyphenated?
  if digits.length = 32 && digits.all fun c => (Json.hexValue? c).isSome then
    some ⟨digits.map Char.toLower⟩
  else none

end EventId

/-- An event with its identifier. -/
structure IdentifiedEvent where
  id : EventId
  event : Event

/-- An action by its name. -/
def EventAction.toJson (action : EventAction) : Json := ofString action.name

/-- An action by its name. -/
def EventAction.ofJson? (json : Json) : Option EventAction :=
  json.choice? EventAction.all EventAction.name

/-- A scope by its name. -/
def EventScope.toJson (scope : EventScope) : Json := ofString scope.name

/-- A scope by its name. -/
def EventScope.ofJson? (json : Json) : Option EventScope := json.choice? EventScope.all EventScope.name

namespace IdentifiedEvent

/-- An event with its identifier. -/
def toJson (identified : IdentifiedEvent) : Json :=
  let event := identified.event
  ofMembers
    [ ("id", ofString identified.id.write),
      ("timestamp", event.timestamp.toJson),
      ("source", ofString event.source),
      ("action", event.action.toJson),
      ("scope", event.scope.toJson),
      ("target_id", ofString event.target),
      ("user", ofOption ofString event.user),
      ("duration_ms", ofOption (fun millis => Json.ofNat millis.toNat) event.durationMillis),
      ("value", ofOption ofString event.value),
      ("custom", ofTable ofString event.custom) ]

/-- An event with its identifier. -/
def ofJson? (json : Json) : Option IdentifiedEvent :=
  json.record? do
    let id ← Record.required "id" fun json => json.asString?.bind EventId.read?
    let timestamp ← Record.required "timestamp" Time.Instant.ofJson?
    let source ← Record.required "source" Json.asString?
    let action ← Record.required "action" EventAction.ofJson?
    let scope ← Record.required "scope" EventScope.ofJson?
    let target ← Record.required "target_id" Json.asString?
    let user ← Record.optional "user" Json.asString?
    let durationMillis ← Record.optional "duration_ms" Json.asUInt64?
    let value ← Record.optional "value" Json.asString?
    let custom ← Record.defaulted "custom" ∅ (Json.table? Json.asString?)
    let event : Event :=
      { timestamp, source, action, scope, target, user, durationMillis, value, custom }
    pure { id, event }

end IdentifiedEvent

end Switchboard

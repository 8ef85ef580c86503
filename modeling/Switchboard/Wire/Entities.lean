/-
**Entities as JSON documents.**

For every type a writer `toJson` and a reader `ofJson?`: values, principals, access lists, contexts,
strategy configurations, properties, features and decisions.
-/

import Switchboard.Evaluation.Decision
import Switchboard.Feature
import Switchboard.Context
import Switchboard.Json.Record

namespace Switchboard

open Json (ofString ofOption ofMembers ofStrings ofTable)

/-- The text of an instant in a document. -/
def Time.Instant.toJson (instant : Time.Instant) : Json := ofString (instant.write "Z")

/-- The instant of a text in a document. -/
def Time.Instant.ofJson? (json : Json) : Option Time.Instant :=
  json.asString?.bind Time.readInstantLeniently?

/-- A value behind the name of its type. -/
def Value.toJson (value : Value) : Json :=
  let content : Json := match value with
    | .text content => ofString content
    | .bool truth => .bool truth
    | .int number => .ofInt number.toInt
    | .double number => .ofDouble number
    | .date instant => instant.toJson
  ofMembers [("type", ofString value.type.name), ("value", content)]

/-- A value behind the name of its type. -/
def Value.ofJson? (json : Json) : Option Value :=
  json.tagged? fun
    | "string" => some fun content => content.asString?.map .text
    | "bool" => some fun content => content.asBool?.map .bool
    | "int" => some fun content => content.asInt64?.map .int
    | "double" => some fun content => content.asDouble?.map .double
    | "date" => some fun content => (Time.Instant.ofJson? content).map .date
    | _ => none

/-- A set of names as an array. -/
def Names.toJson (names : Names) : Json := ofStrings names.toList

/-- A principal. -/
def Principal.toJson (principal : Principal) : Json :=
  ofMembers [("user_id", ofString principal.userId), ("groups", principal.groups.toJson)]

/-- A principal. -/
def Principal.ofJson? (json : Json) : Option Principal :=
  json.record? do
    let userId ← Record.required "user_id" Json.asString?
    let groups ← Record.defaulted "groups" ∅ Json.names?
    pure { userId, groups }

/-- Grantees. -/
def Grantees.toJson (grantees : Grantees) : Json :=
  ofMembers [("users", grantees.users.toJson), ("groups", grantees.groups.toJson)]

/-- Grantees. -/
def Grantees.ofJson? (json : Json) : Option Grantees :=
  json.record? do
    let users ← Record.defaulted "users" ∅ Json.names?
    let groups ← Record.defaulted "groups" ∅ Json.names?
    pure { users, groups }

/-- A permission by its name. -/
def Permission.toJson (permission : Permission) : Json := ofString permission.name

/-- A permission by its name. -/
def Permission.ofJson? (json : Json) : Option Permission := json.choice? Permission.all Permission.name

/-- The entries of an access list under the names of the permissions. -/
def AccessList.entriesOfJson? (json : Json) : Option (Std.ExtTreeMap Permission Grantees) := do
  let members ← json.asObject?
  members.foldlM (fun (entries : Std.ExtTreeMap Permission Grantees) (name, value) => do
    let permission ← Permission.ofJson? (ofString name)
    pure (entries.insert permission (← Grantees.ofJson? value))) ∅

/-- An access list. -/
def AccessList.toJson (list : AccessList) : Json :=
  ofMembers [("permissions", ofMembers (list.entries.toList.map fun (permission, grantees) =>
    (permission.name, grantees.toJson)))]

/-- An access list. -/
def AccessList.ofJson? (json : Json) : Option AccessList :=
  json.record? do
    return ⟨← Record.defaulted "permissions" ∅ AccessList.entriesOfJson?⟩

/-- A context. -/
def Context.toJson (context : Context) : Json :=
  ofMembers [("values", ofTable Value.toJson context.values),
    ("principal", ofOption Principal.toJson context.principal)]

/-- A context. -/
def Context.ofJson? (json : Json) : Option Context :=
  json.record? do
    let values ← Record.defaulted "values" ∅ (Json.table? Value.ofJson?)
    let principal ← Record.defaulted "principal" none (Record.nullable Principal.ofJson?)
    pure { values, principal }

/-- A strategy configuration. -/
def StrategyConfig.toJson (config : StrategyConfig) : Json :=
  ofMembers [("type", ofString config.typeName), ("params", ofTable ofString config.params)]

/-- A strategy configuration. -/
def StrategyConfig.ofJson? (json : Json) : Option StrategyConfig :=
  json.record? do
    let typeName ← Record.required "type" Json.asString?
    let params ← Record.defaulted "params" ∅ (Json.table? Json.asString?)
    pure { typeName, params }

/-- A property. -/
def Property.toJson (property : Property) : Json :=
  ofMembers
    [ ("id", ofString property.id),
      ("value", property.value.toJson),
      ("fixed_values", .array (property.fixedValues.map Value.toJson)),
      ("description", ofOption ofString property.description),
      ("owner", ofOption ofString property.owner),
      ("created_at", property.createdAt.toJson),
      ("updated_at", property.updatedAt.toJson),
      ("acl", property.acl.toJson) ]

/-- A property. -/
def Property.ofJson? (json : Json) : Option Property :=
  json.record? do
    let id ← Record.required "id" Json.asString?
    let value ← Record.required "value" Value.ofJson?
    let fixedValues ← Record.defaulted "fixed_values" [] (Json.list? Value.ofJson?)
    let description ← Record.optional "description" Json.asString?
    let owner ← Record.optional "owner" Json.asString?
    let createdAt ← Record.required "created_at" Time.Instant.ofJson?
    let updatedAt ← Record.required "updated_at" Time.Instant.ofJson?
    let acl ← Record.defaulted "acl" {} AccessList.ofJson?
    pure { id, value, fixedValues, description, owner, createdAt, updatedAt, acl }

/-- A feature. -/
def Feature.toJson (feature : Feature) : Json :=
  ofMembers
    [ ("id", ofString feature.id),
      ("enabled", .bool feature.enabled),
      ("description", ofOption ofString feature.description),
      ("owner", ofOption ofString feature.owner),
      ("group", ofOption ofString feature.group),
      ("created_at", feature.createdAt.toJson),
      ("updated_at", feature.updatedAt.toJson),
      ("custom_properties", ofTable Property.toJson feature.properties),
      ("acl", feature.acl.toJson),
      ("strategy", ofOption StrategyConfig.toJson feature.strategy) ]

/-- A feature. -/
def Feature.ofJson? (json : Json) : Option Feature :=
  json.record? do
    let id ← Record.required "id" Json.asString?
    let enabled ← Record.required "enabled" Json.asBool?
    let description ← Record.optional "description" Json.asString?
    let owner ← Record.optional "owner" Json.asString?
    let group ← Record.optional "group" Json.asString?
    let createdAt ← Record.required "created_at" Time.Instant.ofJson?
    let updatedAt ← Record.required "updated_at" Time.Instant.ofJson?
    let properties ← Record.defaulted "custom_properties" ∅ (Json.table? Property.ofJson?)
    let acl ← Record.defaulted "acl" {} AccessList.ofJson?
    let strategy ← Record.optional "strategy" StrategyConfig.ofJson?
    pure { id, enabled, description, owner, group, createdAt, updatedAt, properties, acl, strategy }

/-- A kind of entity by its name. -/
def EntityKind.toJson (kind : EntityKind) : Json := ofString kind.name

/-- A kind of entity by its name. -/
def EntityKind.ofJson? (json : Json) : Option EntityKind :=
  json.choice? [.feature, .property, .group] EntityKind.name

/-- A reason by its name. -/
def DecisionReason.toJson (reason : DecisionReason) : Json := ofString reason.name

/-- A reason by its name. -/
def DecisionReason.ofJson? (json : Json) : Option DecisionReason :=
  json.choice? DecisionReason.all DecisionReason.name

/-- A decision. -/
def Decision.toJson (decision : Decision) : Json :=
  ofMembers [("feature_id", ofString decision.featureId), ("enabled", .bool decision.enabled),
    ("reason", decision.reason.toJson)]

/-- A decision. -/
def Decision.ofJson? (json : Json) : Option Decision :=
  json.record? do
    let featureId ← Record.required "feature_id" Json.asString?
    let enabled ← Record.required "enabled" Json.asBool?
    let reason ← Record.required "reason" DecisionReason.ofJson?
    pure { featureId, enabled, reason }

end Switchboard

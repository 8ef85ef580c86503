/-
**Calls and notices as JSON documents.**

A request is an object that names a call under `do` and holds what the call carries; the calls of a
principal are named under `call`. Entities can be written in more than one form, so the form is given.
Notices are named apart from the object that holds what they carry.

* `StoreCall.ofRequest?`, `FeatureCall.ofRequest?`, `PropertyCall.ofRequest?`, `CollectionCall.ofName?`,
  `SecuredCall.ofRequest?` — the call of a request, if there is one of the name.
* `Check.ofRequest` — the check of a request.
* `StoreNotice.ofRequest?`, `FeatureNotice.ofRequest?` — the notice of a name.
* `Ending.ofRequest`, `Listener.ofRequest` — how a job ends, and a listener with its name.
* `StoreCall.reply`, `FeatureCall.reply`, `PropertyCall.reply` — the document of a reply.
-/

import Switchboard.Board.Checks
import Switchboard.Json.Access
import Switchboard.Json.Record

namespace Switchboard

open Json (ofOption ofNat)

/-- How entities are read and written; reading one may fail. -/
structure EntityForm (ε E : Type) where
  decode : Json → Except ε E
  encode : E → Json

variable {ε E : Type}

/-! ### Requests -/

/-- The name of the call of a request. -/
def Json.verb (request : Json) : String := request.textAt "do"

/-- The call of any repository. -/
def StoreCall.ofRequest? (form : EntityForm ε E) (request : Json) : Except ε (Option (StoreCall E)) := do
  let id := request.textAt "id"
  match request.verb with
  | "exists" => pure (some (.has id))
  | "find_by_id" => pure (some (.find id))
  | "read" => pure (some (.read id))
  | "fetch" => pure (some (.fetch id))
  | "find_all" => pure (some .all)
  | "create" => pure (some (.create (← form.decode (request.member "entity"))))
  | "update" => pure (some (.update (← form.decode (request.member "entity"))))
  | "delete" => pure (some (.delete id))
  | "save" => pure (some (.save (← (request.itemsAt "entities").mapM form.decode)))
  | "delete_all" => pure (some .deleteAll)
  | "count" => pure (some .count)
  | "create_schema" => pure (some .prepare)
  | _ => pure none

/-- The call of a repository of features. -/
def FeatureCall.ofRequest? (form : EntityForm ε Feature) (request : Json) :
    Except ε (Option FeatureCall) := do
  let id := request.textAt "id"
  let group := request.textAt "group"
  match request.verb with
  | "toggle_on" => pure (some (.setEnabled id true))
  | "toggle_off" => pure (some (.setEnabled id false))
  | "add_to_group" => pure (some (.addToGroup id group))
  | "remove_from_group" => pure (some (.removeFromGroup id group))
  | "exists_group" => pure (some (.hasGroup group))
  | "read_group" => pure (some (.readGroup group))
  | "list_groups" => pure (some .groups)
  | "enable_group" => pure (some (.setGroupEnabled group true))
  | "disable_group" => pure (some (.setGroupEnabled group false))
  | _ => pure ((← StoreCall.ofRequest? form request).map .store)

/-- The call of a repository of properties. -/
def PropertyCall.ofRequest? (form : EntityForm ε Property) (request : Json) :
    Except ε (Option PropertyCall) := do
  match request.verb with
  | "update_value" => pure (some (.setValue (request.textAt "id") (request.textAt "raw")))
  | _ => pure ((← StoreCall.ofRequest? form request).map .store)

/-- The call of a collection that needs nothing but its name. -/
def CollectionCall.ofName? {C : Type} : String → Option (CollectionCall C)
  | "cache_clear" => some .clearCache
  | "tick_now" => some .refresh
  | "refresh_start" => some .startRefreshing
  | "refresh_stop" => some .stopRefreshing
  | "sweep_start" => some .startSweeping
  | "sweep_stop" => some .stopSweeping
  | _ => none

/-- The edit of an access list by its name. -/
def AccessEdit.ofName? (name : String) (permission : Permission) (ids : List String) :
    Option AccessEdit :=
  match name with
  | "grant_users" => some (.grantUsers permission ids)
  | "grant_groups" => some (.grantGroups permission ids)
  | "revoke_users" => some (.revokeUsers permission ids)
  | "revoke_groups" => some (.revokeGroups permission ids)
  | "restrict" => some (.restrict permission)
  | "clear" => some (.clear permission)
  | _ => none

/-- The call of a principal. -/
def SecuredCall.ofRequest? (form : EntityForm ε Feature) (permission : String → Except ε Permission)
    (request : Json) : Except ε (Option SecuredCall) := do
  let id := request.textAt "id"
  match request.textAt "call" with
  | "toggle_on" => pure (some (.setEnabled id true))
  | "toggle_off" => pure (some (.setEnabled id false))
  | "update" => pure (some (.update (← form.decode (request.member "entity"))))
  | "delete" => pure (some (.delete id))
  | name =>
    let held ← permission (request.textAt "permission")
    pure ((AccessEdit.ofName? name held (request.textsAt "ids")).map (.edit id))

/-- The check of a request: within a context only if the request holds one. -/
def Check.ofRequest (context : Json → Except ε Context) (strategy : Json → Except ε Strategy) (request : Json) :
    Except ε Check := do
  let id := request.textAt "id"
  if !request.holds "context" then return .byDefault id
  let given ← context (request.member "context")
  if request.holds "strategy" then
    return .overriding id given (← strategy (request.member "strategy"))
  return .within id given

/-- The notice of a change of any repository, by its name. -/
def StoreNotice.ofRequest? (form : EntityForm ε E) (name : String) (request : Json) :
    Except ε (Option (StoreNotice E)) := do
  match name with
  | "create" => pure (some (.created (← form.decode (request.member "entity"))))
  | "update" => pure (some (.updated (← form.decode (request.member "entity"))))
  | "delete" => pure (some (.deleted (request.textAt "id")))
  | "delete_all" => pure (some .allDeleted)
  | "create_schema" => pure (some .prepared)
  | _ => pure none

/-- The notice of a change or of the use of a feature, by its name. -/
def FeatureNotice.ofRequest? (form : EntityForm ε Feature) (context : Json → Except ε Context)
    (name : String) (request : Json) : Except ε (Option FeatureNotice) := do
  let id := request.textAt "id"
  let group := request.textAt "group"
  match name with
  | "toggle_on" => pure (some (.toggled id true))
  | "toggle_off" => pure (some (.toggled id false))
  | "add_to_group" => pure (some (.addedToGroup id group))
  | "remove_from_group" => pure (some (.removedFromGroup id group))
  | "used" => pure (some (.used id (← context (request.member "context"))))
  | _ => pure ((← StoreNotice.ofRequest? form name request).map .store)

/-! ### Listeners -/

/-- How the job of a request ends; every ending has a kind, and success at once needs none. -/
def Ending.ofRequest (request : Json) : Ending :=
  match request.textAt "kind" with
  | "fail" => .atOnce .fails
  | "panic" => .atOnce .panics
  | "hang" => .never
  | "slow" => .after (request.natAt "ms") .succeeds
  | _ => .atOnce .succeeds

/-- The listener of a request, with its name. -/
def Listener.ofRequest (request : Json) : String × Listener :=
  (request.textAt "name",
    if request.textAt "kind" = "quiet" then .quiet else .recorder (.ofRequest request))

/-! ### Replies -/

/-- The document of a reply; a change replies nothing. -/
def StoreCall.reply (encode : E → Json) : (call : StoreCall E) → call.Reply → Json
  | .has _, found => .bool found
  | .find _, entity => ofOption encode entity
  | .read _, entity => encode entity
  | .fetch _, entity => encode entity
  | .all, entities => .array (entities.map encode)
  | .count, number => ofNat number
  | .create _, _ | .update _, _ | .delete _, _ | .save _, _ | .deleteAll, _ | .prepare, _ => .null

/-- The document of a reply; a change replies nothing. -/
def FeatureCall.reply (encode : Feature → Json) : (call : FeatureCall) → call.Reply → Json
  | .store asked, reply => asked.reply encode reply
  | .hasGroup _, found => .bool found
  | .readGroup _, members => .array (members.map encode)
  | .groups, names => Json.ofStrings names.toList
  | .setEnabled _ _, _ | .addToGroup _ _, _ | .removeFromGroup _ _, _ | .setGroupEnabled _ _, _ => .null

/-- The document of a reply; a change replies nothing. -/
def PropertyCall.reply (encode : Property → Json) : (call : PropertyCall) → call.Reply → Json
  | .store asked, reply => asked.reply encode reply
  | .setValue _ _, _ => .null

/-- The document of a reply, given those of the calls of the repository. -/
def CollectionCall.reply {C : Type} {Reply : C → Type} (inner : (call : C) → Reply call → Json) :
    (call : CollectionCall C) → call.Reply Reply → Json
  | .call asked, reply | .direct asked, reply => inner asked reply
  | .register _ _, answer | .unregister _, answer => .bool answer
  | .startRefreshing, answer | .stopRefreshing, answer => .bool answer
  | .startSweeping, answer | .stopSweeping, answer => .bool answer
  | .refresh, loaded => ofNat loaded
  | .setOnline _, _ | .clearCache, _ => .null

end Switchboard

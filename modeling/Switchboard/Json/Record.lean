/-
**Records in JSON documents.**

A record is written as an object, or as an array of its members in their order. In an object members
come in any order, unknown ones are ignored and none may be repeated; in an array only members with a
default may be missing at the end.

* `Record` — a reader of the members of a record.
* `Record.required`, `Record.optional`, `Record.defaulted` — one member.
* `Json.record?` — a record as a whole.
* `Json.word?` — a bare word; `Json.choice?` — a word out of a list; `Json.tagged?` — a value behind the
  name of its type.
-/

import Switchboard.Json.Tree
import Switchboard.Table

namespace Switchboard

/-- Where members are looked for: under their names, or one after the other. -/
inductive RecordSource where
  | named (members : List (String × Json))
  | ordered (items : List Json)

/-- A reader of the members of a record. -/
abbrev Record := StateT RecordSource Option

namespace Record

variable {α : Type}

/-- A member: what it gives if it is missing in an object, and if it is missing in an array. -/
def member (name : String) (unnamed unlisted : Option α) (decode : Json → Option α) : Record α := do
  match ← get with
  | .named members =>
    match members.filter fun (other, _) => other == name with
    | [] => unnamed
    | [(_, value)] => decode value
    | _ => none
  | .ordered [] => unlisted
  | .ordered (item :: rest) =>
    set (RecordSource.ordered rest)
    decode item

/-- A member that has to be there. -/
def required (name : String) (decode : Json → Option α) : Record α := member name none none decode

/-- A value, or null for nothing. -/
def nullable (decode : Json → Option α) : Json → Option (Option α)
  | .null => some none
  | json => (decode json).map some

/-- A member that may be null, and missing in an object. -/
def optional (name : String) (decode : Json → Option α) : Record (Option α) :=
  member name (some none) none (nullable decode)

/-- A member that may be missing but not null. -/
def defaulted (name : String) (fallback : α) (decode : Json → Option α) : Record α :=
  member name (some fallback) (some fallback) decode

end Record

namespace Json

variable {α : Type}

/-- A record as a whole; `surplus` allows more items than members in an array. -/
def recordWith? (surplus : Bool) (record : Record α) (json : Json) : Option α :=
  match json with
  | object _ => do
    let members ← json.asObject?
    (·.1) <$> record.run (.named members)
  | array items => do
    match ← record.run (.ordered items) with
    | (value, .ordered (_ :: _)) => if surplus then some value else none
    | (value, _) => some value
  | _ => none

/-- A record as a whole. -/
def record? (record : Record α) (json : Json) : Option α := recordWith? false record json

/-- A word: a text, or an object with the word as its only member, which is null. -/
def word? : Json → Option String
  | text word => word
  | object [(word, null)] => word
  | _ => none

/-- A word out of a list. -/
def choice? (choices : List α) (name : α → String) (json : Json) : Option α :=
  json.word?.bind fun word => choices.find? fun choice => name choice == word

/-- The name of a type and the value behind it: two members, of which the name is a word, or an array
of the two, in which the name is a text. -/
def tag? : Json → Option (String × Json)
  | array [text (some tag), content] => some (tag, content)
  | array _ => none
  | json => json.record? do
    pure (← Record.required "type" word?, ← Record.required "value" some)

/-- A value behind the name of its type. -/
def tagged? (decode : String → Option (Json → Option α)) (json : Json) : Option α := do
  let (tag, content) ← json.tag?
  (← decode tag) content

/-- A table: of repeated names the last one counts. -/
def table? (decode : Json → Option α) (json : Json) : Option (Table α) := do
  let members ← json.asObject?
  members.foldlM (fun (table : Table α) (name, value) => do pure (table.insert name (← decode value))) ∅

/-- A set of names. -/
def names? (json : Json) : Option Names := do
  pure (Names.of (← (← json.asArray?).mapM asString?))

/-- A list. -/
def list? (decode : Json → Option α) (json : Json) : Option (List α) := do
  (← json.asArray?).mapM decode

/-- A list of texts. -/
def ofStrings (texts : List String) : Json := .array (texts.map ofString)

/-- A table as an object. -/
def ofTable (encode : α → Json) (table : Table α) : Json :=
  ofMembers (table.toList.map fun (name, value) => (name, encode value))

end Json

end Switchboard

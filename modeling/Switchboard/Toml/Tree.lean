/-
**Tables of TOML documents.**

A document is a table of tables and values. Where a table came from decides what may still be added to
it: a table written with a header or in braces is complete once it has been left, a table that exists
only because a longer header names it may get a header of its own, and a table made by a dotted key
may be added to by further dotted keys.

* `Toml.define` — a key with its value.
* `Toml.openTable`, `Toml.openElement` — a header with the keys below it.
* `Toml.toJson` — the document as a JSON document.
-/

import Switchboard.Json.Tree

namespace Switchboard

/-- Where a table came from: from its header, from the header of a table inside it, or from a dotted
key. -/
inductive TableOrigin where
  | header
  | ancestor
  | dotted
  deriving DecidableEq, Repr

/-- A value, a table, or an array of tables that was written with headers. -/
inductive Toml where
  | value (json : Json)
  | table (origin : TableOrigin) (members : List (String × Toml))
  | tables (elements : List Toml)

namespace Toml

/-- A key: its parts. -/
abbrev Key := List String

/-- An empty table with a header. -/
def empty : Toml := .table .header []

/-- Members with the one of a name replaced, or added. -/
def setMember (name : String) (node : Toml) : List (String × Toml) → List (String × Toml)
  | [] => [(name, node)]
  | (other, old) :: rest =>
    if other == name then (name, node) :: rest else (other, old) :: setMember name node rest

/-- Changes the table at a path. Tables missing on the way are made, and `way` is where they come from;
a dotted path does not enter a table with a header; of an array of tables the last one is entered. -/
def alter (way : TableOrigin) (change : TableOrigin → List (String × Toml) → Option Toml) :
    Key → TableOrigin → List (String × Toml) → Option Toml
  | [], origin, members => change origin members
  | name :: path, origin, members => do
    let child ← match members.lookup name with
      | none => alter way change path way []
      | some (.table inner held) =>
        if way = .dotted ∧ inner = .header then none else alter way change path inner held
      | some (.tables elements) =>
        match elements.getLast? with
        | some (.table inner held) => do
          pure (.tables (elements.dropLast ++ [← alter way change path inner held]))
        | _ => none
      | some (.value _) => none
    pure (.table origin (setMember name child members))

/-- Changes the table at a path inside another one. -/
def alterAt (way : TableOrigin) (path : Key)
    (change : TableOrigin → List (String × Toml) → Option Toml) : Toml → Option Toml
  | .table origin members => alter way change path origin members
  | _ => none

/-- Adds a member under a name that is not taken; one behind a dotted key needs a table that dotted
keys made. -/
def addMember (dotted : Bool) (name : String) (node : Toml) (origin : TableOrigin)
    (members : List (String × Toml)) : Option Toml :=
  if (origin = .dotted) ≠ dotted ∨ (members.lookup name).isSome then none
  else some (.table origin (members ++ [(name, node)]))

/-- Adds a key with its value. -/
def define (table : Toml) : Key × Json → Option Toml
  | ([], _) => none
  | (first :: rest, json) =>
    let key := first :: rest
    table.alterAt .dotted key.dropLast
      (addMember (!rest.isEmpty) (key.getLast (List.cons_ne_nil first rest)) (.value json))

/-- Adds keys with their values, one after the other. -/
def defineAll (table : Toml) (pairs : List (Key × Json)) : Option Toml := pairs.foldlM define table

/-- Changes what stands under the last part of a key, tables on the way being ancestors. -/
def alterMember (change : Option Toml → Option Toml) (table : Toml) : Key → Option Toml
  | [] => none
  | first :: rest =>
    let key := first :: rest
    let name := key.getLast (List.cons_ne_nil first rest)
    table.alterAt .ancestor key.dropLast fun origin members => do
      let node ← change (members.lookup name)
      pure (.table origin (setMember name node members))

/-- A table under a header, with the keys below the header. -/
def openTable (table : Toml) (key : Key) (pairs : List (Key × Json)) : Option Toml :=
  table.alterMember (fun
    | none => empty.defineAll pairs
    | some (.table .ancestor members) => (Toml.table .header members).defineAll pairs
    | _ => none) key

/-- One more element of an array of tables under a header, with the keys below the header. -/
def openElement (table : Toml) (key : Key) (pairs : List (Key × Json)) : Option Toml :=
  table.alterMember (fun
    | none => do pure (.tables [← empty.defineAll pairs])
    | some (.tables elements) => do pure (.tables (elements ++ [← empty.defineAll pairs]))
    | _ => none) key

mutual

/-- The document as a JSON document. -/
def toJson : Toml → Json
  | .value json => json
  | .table _ members => .object (membersToJson members)
  | .tables elements => .array (elementsToJson elements)

/-- The members of a table. -/
def membersToJson : List (String × Toml) → List (Option String × Json)
  | [] => []
  | (name, node) :: rest => (some name, node.toJson) :: membersToJson rest

/-- The elements of an array of tables. -/
def elementsToJson : List Toml → List Json
  | [] => []
  | node :: rest => node.toJson :: elementsToJson rest

end

end Toml

end Switchboard

/-
**Writing JSON documents.**

* `Json.write` — a document without blanks.
-/

import Switchboard.Json.Numeral

namespace Switchboard.Json

/-- One character of a text as it is written between quotes. -/
def writeChar (c : Char) : String :=
  if c == '"' then "\\\""
  else if c == '\\' then "\\\\"
  else if c == '\n' then "\\n"
  else if c == '\r' then "\\r"
  else if c == '\t' then "\\t"
  else if c.toNat == 0x08 then "\\b"
  else if c.toNat == 0x0C then "\\f"
  else if c.toNat < 0x20 then
    "\\u" ++ String.ofList (List.replicate (if c.toNat < 0x10 then 3 else 2) '0') ++
      String.ofList (Nat.toDigits 16 c.toNat)
  else c.toString

/-- A text between quotes. -/
def writeText (content : String) : String :=
  "\"" ++ String.join (content.toList.map writeChar) ++ "\""

/-- A number. -/
def writeNumber : Number → String
  | .integer value => Number.writeInt value
  | .double value => writeNumeral value

mutual

/-- A document without blanks. What stands for nothing is written as null. -/
def write : Json → String
  | null => "null"
  | bool truth => if truth then "true" else "false"
  | number value => (value.map writeNumber).getD "null"
  | text content => (content.map writeText).getD "null"
  | array items => "[" ++ writeItems items ++ "]"
  | object members => "\x7b" ++ writeMembers members ++ "\x7d"

/-- Items with commas between them. -/
def writeItems : List Json → String
  | [] => ""
  | [item] => write item
  | item :: rest => write item ++ "," ++ writeItems rest

/-- Members with commas between them. -/
def writeMembers : List (Option String × Json) → String
  | [] => ""
  | [(name, value)] => (name.map writeText).getD "null" ++ ":" ++ write value
  | (name, value) :: rest =>
    (name.map writeText).getD "null" ++ ":" ++ write value ++ "," ++ writeMembers rest

end

end Switchboard.Json

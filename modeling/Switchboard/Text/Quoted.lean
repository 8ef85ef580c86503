/-
**Texts in double quotes.**

* `quoted` — a text between double quotes, in which a quote, a backslash, a line end, a tab and a
  zero byte are written with a backslash, and every other unseen character by its number.
* `quotedList` — quoted texts in brackets; `quotedMap` — pairs of quoted texts in braces.
-/

import Switchboard.Text.Blank
import Switchboard.Text.Unseen

namespace Switchboard.Text

/-- The lower-case hexadecimal digits of a number, without leading zeros. -/
def hexDigits (number : Nat) : String := String.ofList (Nat.toDigits 16 number)

/-- One character as it is written between double quotes. -/
def quoteChar (c : Char) : String :=
  if c == '"' then "\\\""
  else if c == '\\' then "\\\\"
  else if c == '\n' then "\\n"
  else if c == '\r' then "\\r"
  else if c == '\t' then "\\t"
  else if c.toNat == 0 then "\\0"
  else if isUnseen c then "\\u\x7b" ++ hexDigits c.toNat ++ "\x7d"
  else c.toString

/-- A text between double quotes. -/
def quoted (text : String) : String :=
  "\"" ++ join "" (text.toList.map quoteChar) ++ "\""

/-- Quoted texts in brackets. -/
def quotedList (texts : List String) : String :=
  "[" ++ join ", " (texts.map quoted) ++ "]"

/-- Pairs of quoted texts in braces. -/
def quotedMap (pairs : List (String × String)) : String :=
  "\x7b" ++ join ", " (pairs.map fun (key, value) => quoted key ++ ": " ++ quoted value) ++ "\x7d"

end Switchboard.Text

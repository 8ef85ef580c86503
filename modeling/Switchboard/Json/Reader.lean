/-
**Reading JSON documents.**

* `Json.read?` — the document that a text writes, with blanks around it; nothing else may follow.
-/

import Switchboard.Json.Numeral

namespace Switchboard.Json

/-- Characters without the blanks in front. -/
def skipBlanks (chars : List Char) : List Char :=
  chars.dropWhile fun c => c == ' ' || c == '\n' || c == '\t' || c == '\r'

/-- The value of a hexadecimal digit. -/
def hexValue? (c : Char) : Option Nat :=
  if c.isDigit then some (c.toNat - '0'.toNat)
  else if 'a' ≤ c && c ≤ 'f' then some (c.toNat - 'a'.toNat + 10)
  else if 'A' ≤ c && c ≤ 'F' then some (c.toNat - 'A'.toNat + 10)
  else none

/-- The number that four hexadecimal digits write. -/
def readUnit : List Char → Option (Nat × List Char)
  | a :: b :: c :: d :: rest => do
    let number := (((← hexValue? a) * 16 + (← hexValue? b)) * 16 + (← hexValue? c)) * 16 +
      (← hexValue? d)
    pure (number, rest)
  | _ => none

/-- The number is the first half of a surrogate pair. -/
def isHighSurrogate (unit : Nat) : Bool := 0xD800 ≤ unit && unit < 0xDC00

/-- The number is the second half of a surrogate pair. -/
def isLowSurrogate (unit : Nat) : Bool := 0xDC00 ≤ unit && unit < 0xE000

/-- The character that a letter after a backslash stands for. -/
def escaped? : Char → Option Char
  | '"' => some '"'
  | '\\' => some '\\'
  | '/' => some '/'
  | 'b' => some '\x08'
  | 'f' => some '\x0c'
  | 'n' => some '\n'
  | 'r' => some '\r'
  | 't' => some '\t'
  | _ => none

/-- A character given by one or two numbers: none if half of a surrogate pair is missing. -/
def readNumbered (chars : List Char) : Option ((Option Char) × List Char) := do
  let (unit, rest) ← readUnit chars
  if isHighSurrogate unit then
    match rest with
    | '\\' :: 'u' :: more =>
      let (second, after) ← readUnit more
      if isLowSurrogate second then
        pure (some (Char.ofNat (0x10000 + (unit - 0xD800) * 0x400 + (second - 0xDC00))), after)
      else pure (none, rest)
    | _ => pure (none, rest)
  else if isLowSurrogate unit then pure (none, rest)
  else pure (some (Char.ofNat unit), rest)

/-- The rest of a text after its opening quote; `read` holds the characters before, the last one first,
and `whole` tells that none of them is missing. -/
def readTextFrom : (fuel : Nat) → (whole : Bool) → (read : List Char) → List Char →
    Option ((Option String) × List Char)
  | 0, _, _, _ => none
  | _ + 1, _, _, [] => none
  | fuel + 1, whole, read, c :: rest =>
    if c == '"' then some (if whole then some (String.ofList read.reverse) else none, rest)
    else if c == '\\' then
      match rest with
      | 'u' :: digits => do
        match ← readNumbered digits with
        | (some c, after) => readTextFrom fuel whole (c :: read) after
        | (none, after) => readTextFrom fuel false read after
      | letter :: after => do readTextFrom fuel whole ((← escaped? letter) :: read) after
      | [] => none
    else if c.toNat < 0x20 then none
    else readTextFrom fuel whole (c :: read) rest

/-- The rest of a text after its opening quote. -/
def readText (chars : List Char) : Option ((Option String) × List Char) :=
  readTextFrom (chars.length + 1) true [] chars

/-- The digits in front, of which there is at least one. -/
def readDigits (chars : List Char) : Option ((List Char) × List Char) :=
  let digits := chars.takeWhile Char.isDigit
  if digits.isEmpty then none else some (digits, chars.drop digits.length)

/-- The digits of an integer: a zero in front stands alone. -/
def readWhole (chars : List Char) : Option ((List Char) × List Char) := do
  let (digits, rest) ← readDigits chars
  if digits.head? == some '0' && 1 < digits.length then none else pure (digits, rest)

/-- A fraction, if a point follows. -/
def readFraction : List Char → Option ((Option (List Char)) × List Char)
  | '.' :: rest => do
    let (digits, rest) ← readDigits rest
    pure (some digits, rest)
  | chars => some (none, chars)

/-- An exponent, if its mark follows. -/
def readExponent (chars : List Char) : Option ((Option (Bool × List Char)) × List Char) :=
  match chars with
  | [] => some (none, [])
  | mark :: rest =>
    if mark == 'e' || mark == 'E' then do
      let (negative, rest) := match rest with
        | '-' :: rest => (true, rest)
        | '+' :: rest => (false, rest)
        | rest => (false, rest)
      let (digits, rest) ← readDigits rest
      pure (some (negative, digits), rest)
    else some (none, chars)

/-- A numeral without its sign. -/
def readNumeral (negative : Bool) (chars : List Char) : Option (Json × List Char) := do
  let (whole, chars) ← readWhole chars
  let (fraction, chars) ← readFraction chars
  let (exponent, chars) ← readExponent chars
  let numeral : Numeral := { negative, whole, fraction, exponent }
  pure (.number numeral.value?, chars)

/-- A word in front. -/
def readWord (word : String) (value : Json) (chars : List Char) : Option (Json × List Char) :=
  if chars.take word.length = word.toList then some (value, chars.drop word.length) else none

mutual

/-- A value without blanks in front. -/
def readValue : (fuel : Nat) → List Char → Option (Json × List Char)
  | 0, _ => none
  | _ + 1, [] => none
  | fuel + 1, c :: rest =>
    if c == '"' then do
      let (content, rest) ← readText rest
      pure (.text content, rest)
    else if c == '[' then
      match skipBlanks rest with
      | ']' :: rest => some (.array [], rest)
      | rest => do
        let (items, rest) ← readItems fuel rest
        pure (.array items, rest)
    else if c.toNat == 0x7B then
      match skipBlanks rest with
      | [] => none
      | first :: after =>
        if first.toNat == 0x7D then some (.object [], after)
        else do
          let (members, rest) ← readMembers fuel (first :: after)
          pure (.object members, rest)
    else if c == '-' then readNumeral true rest
    else if c.isDigit then readNumeral false (c :: rest)
    else if c == 't' then readWord "true" (.bool true) (c :: rest)
    else if c == 'f' then readWord "false" (.bool false) (c :: rest)
    else if c == 'n' then readWord "null" .null (c :: rest)
    else none

/-- The items of an array up to its closing bracket. -/
def readItems : (fuel : Nat) → List Char → Option ((List Json) × List Char)
  | 0, _ => none
  | fuel + 1, chars => do
    let (item, rest) ← readValue fuel chars
    match skipBlanks rest with
    | ',' :: rest =>
      let (items, rest) ← readItems fuel (skipBlanks rest)
      pure (item :: items, rest)
    | ']' :: rest => pure ([item], rest)
    | _ => none

/-- The members of an object up to its closing brace. -/
def readMembers : (fuel : Nat) → List Char → Option ((List (Option String × Json)) × List Char)
  | 0, _ => none
  | fuel + 1, chars =>
    match chars with
    | '"' :: rest => do
      let (name, rest) ← readText rest
      match skipBlanks rest with
      | ':' :: rest =>
        let (value, rest) ← readValue fuel (skipBlanks rest)
        match skipBlanks rest with
        | [] => none
        | mark :: rest =>
          if mark == ',' then
            let (members, rest) ← readMembers fuel (skipBlanks rest)
            pure ((name, value) :: members, rest)
          else if mark.toNat == 0x7D then pure ([(name, value)], rest)
          else none
      | _ => none
    | _ => none

end

/-- The document that a text writes. -/
def read? (source : String) : Option Json :=
  let chars := source.toList
  match readValue (chars.length + 1) (skipBlanks chars) with
  | some (json, rest) => if (skipBlanks rest).isEmpty then some json else none
  | none => none

end Switchboard.Json

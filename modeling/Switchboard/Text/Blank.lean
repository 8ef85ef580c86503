/-
**Blank and control characters.**

* `isBlank` — the Unicode property White_Space.
* `isControl` — the Unicode category Cc.
* `trim` — a text without the blank characters at its two ends.
* `lower`, `equalIgnoringCase` — case folding of ASCII letters; every other character is itself.
-/

namespace Switchboard.Text

/-- The characters with the Unicode property White_Space. -/
def isBlank (c : Char) : Bool :=
  let code := c.toNat
  (9 ≤ code && code ≤ 13) || code == 0x20 || code == 0x85 || code == 0xA0 || code == 0x1680 ||
    (0x2000 ≤ code && code ≤ 0x200A) || code == 0x2028 || code == 0x2029 || code == 0x202F ||
    code == 0x205F || code == 0x3000

/-- The characters of the Unicode category Cc. -/
def isControl (c : Char) : Bool :=
  c.toNat < 0x20 || (0x7F ≤ c.toNat && c.toNat < 0xA0)

/-- The characters between the first and the last that are not blank. -/
def trimChars (chars : List Char) : List Char :=
  ((chars.dropWhile isBlank).reverse.dropWhile isBlank).reverse

/-- A text without the blank characters at its two ends. -/
def trim (text : String) : String := String.ofList (trimChars text.toList)

/-- A text with its ASCII letters in lower case. -/
def lower (text : String) : String := text.map Char.toLower

/-- Two texts are the same up to the case of ASCII letters. -/
def equalIgnoringCase (left right : String) : Bool := lower left == lower right

/-- Texts side by side with a separator between two of them. -/
def join (separator : String) (parts : List String) : String :=
  String.intercalate separator parts

end Switchboard.Text

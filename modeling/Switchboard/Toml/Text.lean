/-
**Texts, blanks and keys of TOML documents.**

Texts stand in quotation marks, with escapes, or in apostrophes, without; either mark alone encloses a
text on one line, and three of them enclose a text over several lines. A key is made of parts with
points between them, a part being a text on one line or a bare word.

* `skipSpaces`, `skipLines`, `endLine?` — what stands between words.
* `readText` — a text in one of the four forms.
* `readKey` — a key.
-/

import Switchboard.Json.Reader
import Switchboard.Toml.Tree

namespace Switchboard.Toml

/-! ### Blanks -/

/-- A blank inside a line. -/
def isSpace (c : Char) : Bool := c == ' ' || c == '\t'

/-- A character that stands for itself: every one but the control characters other than the tab. -/
def isPlain (c : Char) : Bool := c == '\t' || (0x20 ≤ c.toNat && c.toNat != 0x7F)

/-- Characters without the blanks in front. -/
def skipSpaces (chars : List Char) : List Char := chars.dropWhile isSpace

/-- The characters after the end of a line in front. -/
def newline? : List Char → Option (List Char)
  | '\n' :: rest => some rest
  | '\r' :: '\n' :: rest => some rest
  | _ => none

/-- Characters without the blanks and ends of lines in front. -/
def skipBlankLines : List Char → List Char
  | '\r' :: '\n' :: rest => skipBlankLines rest
  | c :: rest => if isSpace c || c == '\n' then skipBlankLines rest else c :: rest
  | [] => []

/-- Characters without the blanks, ends of lines and comments in front; `comment` tells that they begin
inside a comment. -/
def skipLines : (comment : Bool) → List Char → List Char
  | _, [] => []
  | _, '\n' :: rest => skipLines false rest
  | _, '\r' :: '\n' :: rest => skipLines false rest
  | true, c :: rest => if isPlain c then skipLines true rest else c :: rest
  | false, c :: rest =>
    if isSpace c then skipLines false rest
    else if c == '#' then skipLines true rest
    else c :: rest

/-- The characters after a line that has nothing left but blanks and a comment. -/
def endLine? (chars : List Char) : Option (List Char) :=
  let rest := match skipSpaces chars with
    | '#' :: comment => comment.dropWhile isPlain
    | rest => rest
  if rest.isEmpty then some [] else newline? rest

/-! ### Texts -/

/-- A form of texts: the mark that encloses them, and whether there are three marks on either side. -/
structure TextForm where
  mark : Char
  long : Bool

/-- Texts in quotation marks have escapes. -/
def TextForm.escapes (form : TextForm) : Bool := form.mark == '"'

/-- The character that so many hexadecimal digits name. -/
def readCodePoint (width : Nat) (chars : List Char) : Option (Char × List Char) := do
  let values ← (chars.take width).mapM Json.hexValue?
  let code := values.foldl (fun number value => number * 16 + value) 0
  if values.length = width ∧ code.isValidChar then pure (Char.ofNat code, chars.drop width) else none

/-- The character that an escape stands for, after its backslash. -/
def readEscape : List Char → Option (Char × List Char)
  | 'b' :: rest => some ('\x08', rest)
  | 't' :: rest => some ('\t', rest)
  | 'n' :: rest => some ('\n', rest)
  | 'f' :: rest => some ('\x0c', rest)
  | 'r' :: rest => some ('\r', rest)
  | '"' :: rest => some ('"', rest)
  | '\\' :: rest => some ('\\', rest)
  | 'u' :: rest => readCodePoint 4 rest
  | 'U' :: rest => readCodePoint 8 rest
  | _ => none

/-- What follows a backslash at the end of a line: blanks and ends of lines are left out. -/
def joinedLine? (form : TextForm) (chars : List Char) : Option (List Char) :=
  if form.long then (newline? (skipSpaces chars)).map skipBlankLines else none

/-- The rest of a text after its opening marks; `read` holds the characters before, the last one first.
A long text may end with two marks more than enclose it. -/
def readTextFrom (form : TextForm) : (fuel : Nat) → (read : List Char) → List Char →
    Option (String × List Char)
  | 0, _, _ => none
  | _ + 1, _, [] => none
  | fuel + 1, read, c :: rest =>
    if c == form.mark then
      let marks := min ((c :: rest).takeWhile (· == form.mark)).length 5
      if !form.long then some (String.ofList read.reverse, rest)
      else if marks < 3 then readTextFrom form fuel (c :: read) rest
      else some (String.ofList (List.replicate (marks - 3) c ++ read).reverse,
        (c :: rest).drop marks)
    else if form.escapes && c == '\\' then
      match joinedLine? form rest with
      | some rest => readTextFrom form fuel read rest
      | none => do
        let (escaped, rest) ← readEscape rest
        readTextFrom form fuel (escaped :: read) rest
    else if isPlain c then readTextFrom form fuel (c :: read) rest
    else if form.long then do readTextFrom form fuel ('\n' :: read) (← newline? (c :: rest))
    else none

/-- A text in one of the four forms; the end of a line right after the opening marks of a long text is
left out. -/
def readText : List Char → Option (String × List Char)
  | [] => none
  | mark :: rest =>
    if mark != '"' && mark != '\'' then none
    else if rest.take 2 = [mark, mark] then
      let body := rest.drop 2
      readTextFrom ⟨mark, true⟩ (body.length + 1) [] ((newline? body).getD body)
    else readTextFrom ⟨mark, false⟩ (rest.length + 1) [] rest

/-! ### Keys -/

/-- A character of a bare word. -/
def isWordChar (c : Char) : Bool := c.isAlphanum || c == '_' || c == '-'

/-- A part of a key. -/
def readPart (chars : List Char) : Option (String × List Char) :=
  match chars with
  | [] => none
  | c :: rest =>
    if c == '"' || c == '\'' then
      readTextFrom ⟨c, false⟩ (rest.length + 1) [] rest
    else
      let word := chars.takeWhile isWordChar
      if word.isEmpty then none else some (String.ofList word, chars.drop word.length)

/-- A key of at most so many parts, with blanks around each of them. -/
def readKeyWithin : (parts : Nat) → List Char → Option (Key × List Char)
  | 0, _ => none
  | parts + 1, chars => do
    let (part, rest) ← readPart (skipSpaces chars)
    match skipSpaces rest with
    | '.' :: rest => do
      let (key, rest) ← readKeyWithin parts rest
      pure (part :: key, rest)
    | rest => pure ([part], rest)

/-- How many parts a key may have, and how many arrays and tables may stand in each other. -/
def depthLimit : Nat := 79

/-- A key. -/
def readKey (chars : List Char) : Option (Key × List Char) := readKeyWithin depthLimit chars

end Switchboard.Toml

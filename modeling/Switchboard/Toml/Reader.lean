/-
**Reading TOML documents.**

A document is a list of lines: keys with values, and headers in brackets that open a table, or in
double brackets that add an element to an array of tables. Keys before the first header belong to the
document itself.

* `Toml.read?` — the document that a text writes; a byte order mark in front is skipped.
-/

import Switchboard.Toml.Scalar
import Switchboard.Toml.Text

namespace Switchboard.Toml

/-- The items of an array up to its closing bracket; a comma may follow the last one. -/
def readItems (item : List Char → Option (Json × List Char)) : (fuel : Nat) → List Char →
    Option (List Json × List Char)
  | 0, _ => none
  | fuel + 1, chars =>
    match skipLines false chars with
    | ']' :: rest => some ([], rest)
    | chars => do
      let (first, rest) ← item chars
      match skipLines false rest with
      | ']' :: rest => pure ([first], rest)
      | ',' :: rest =>
        let (items, rest) ← readItems item fuel rest
        pure (first :: items, rest)
      | _ => none

/-- A key with its value. -/
def readPair (value : List Char → Option (Json × List Char)) (chars : List Char) :
    Option ((Key × Json) × List Char) := do
  let (key, rest) ← readKey chars
  match rest with
  | '=' :: rest =>
    let (json, rest) ← value (skipSpaces rest)
    pure ((key, json), rest)
  | _ => none

/-- The pairs of a table in braces up to the closing one. -/
def readPairs (value : List Char → Option (Json × List Char)) : (fuel : Nat) → List Char →
    Option (List (Key × Json) × List Char)
  | 0, _ => none
  | fuel + 1, chars => do
    let (pair, rest) ← readPair value chars
    match skipSpaces rest with
    | [] => none
    | mark :: rest =>
      if mark == ',' then
        let (pairs, rest) ← readPairs value fuel rest
        pure (pair :: pairs, rest)
      else if mark.toNat == 0x7D then pure ([pair], rest)
      else none

/-- A table in braces after the opening one. -/
def readBraces (value : List Char → Option (Json × List Char)) (chars : List Char) :
    Option (Json × List Char) :=
  match skipSpaces chars with
  | [] => none
  | first :: rest =>
    if first.toNat == 0x7D then some (.object [], rest)
    else do
      let (pairs, rest) ← readPairs value (chars.length + 1) (first :: rest)
      pure ((← empty.defineAll pairs).toJson, rest)

/-- A value that is no array and no table. -/
def readSingle (chars : List Char) : Option (Json × List Char) :=
  match chars with
  | [] => none
  | c :: _ =>
    if c == '"' || c == '\'' then do
      let (content, rest) ← readText chars
      pure (.ofString content, rest)
    else readBare chars

/-- A value in which so many arrays and tables may stand in each other. -/
def readValue : (depth : Nat) → List Char → Option (Json × List Char)
  | 0, chars => readSingle chars
  | _ + 1, [] => none
  | depth + 1, c :: rest =>
    if c == '[' then do
      let (items, rest) ← readItems (readValue depth) (rest.length + 1) rest
      pure (.array items, rest)
    else if c.toNat == 0x7B then readBraces (readValue depth) rest
    else readSingle (c :: rest)

/-- A line of a document. -/
inductive Line where
  | pair (key : Key) (json : Json)
  | table (key : Key)
  | element (key : Key)

/-- A header after its opening brackets. -/
def readHeader (closing chars : List Char) : Option (Key × List Char) := do
  let (key, rest) ← readKey chars
  if closing.isPrefixOf rest then pure (key, rest.drop closing.length) else none

/-- A line that is not blank. -/
def readLine (chars : List Char) : Option (Line × List Char) :=
  match chars with
  | '[' :: '[' :: rest => do
    let (key, rest) ← readHeader [']', ']'] rest
    pure (.element key, rest)
  | '[' :: rest => do
    let (key, rest) ← readHeader [']'] rest
    pure (.table key, rest)
  | chars => do
    let ((key, json), rest) ← readPair (readValue depthLimit) chars
    pure (.pair key json, rest)

/-- The lines of a document; blank lines and comments are left out. -/
def readLines : (fuel : Nat) → List Char → Option (List Line)
  | 0, _ => none
  | fuel + 1, chars =>
    match skipLines false chars with
    | [] => some []
    | chars => do
      let (line, rest) ← readLine chars
      let lines ← readLines fuel (← endLine? rest)
      pure (line :: lines)

/-- A header with the keys below it. -/
structure Section where
  opening : Toml → List (Key × Json) → Option Toml
  pairs : List (Key × Json)

/-- The keys before the first header, and the headers with the keys below them. -/
def sections (lines : List Line) : List (Key × Json) × List Section :=
  lines.foldr (fun line (pairs, sections) =>
    match line with
    | .pair key json => ((key, json) :: pairs, sections)
    | .table key => ([], ⟨fun table => table.openTable key, pairs⟩ :: sections)
    | .element key => ([], ⟨fun table => table.openElement key, pairs⟩ :: sections)) ([], [])

/-- The document of lines. -/
def ofLines? (lines : List Line) : Option Toml := do
  let (pairs, sections) := sections lines
  sections.foldlM (fun table part => part.opening table part.pairs) (← empty.defineAll pairs)

/-- The document that a text writes. -/
def read? (source : String) : Option Toml := do
  let chars := match source.toList with
    | '\ufeff' :: rest => rest
    | chars => chars
  ofLines? (← readLines (chars.length + 1) chars)

end Switchboard.Toml

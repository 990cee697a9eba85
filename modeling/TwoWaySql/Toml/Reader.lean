import TwoWaySql.Toml.Datetime
import TwoWaySql.Toml.Number
import TwoWaySql.Toml.String
import TwoWaySql.Toml.Table

/-!
# Reading TOML

A document is a row of lines: blank, an entry, or a header that says which table the entries
below it belong to. Lists may go over several lines, inline tables may not. Nesting is limited.
-/
namespace TwoWaySql.Toml

/-- The depth of nesting, and the number of parts of a key, that are refused. -/
def depthLimit : Nat := 80

/-! ## Keys -/

/-- Reads one part of a key. -/
def readKeyPart (t : Text) : Option (Text × Text) :=
  match t with
  | '"' :: rest => readBasic rest
  | '\'' :: rest => readLiteral rest
  | _ =>
    let (key, rest) := t.span isBareKey
    if key.isEmpty then none else some (key, rest)

/-- Reads a dotted key with the blanks around its parts; `fuel` bounds their number. -/
def readKey : Nat → Text → Option (List Text × Text)
  | 0, _ => none
  | fuel + 1, t => do
    let (part, rest) ← readKeyPart (skipSpaces t)
    match skipSpaces rest with
    | '.' :: rest =>
      let (parts, rest) ← readKey fuel rest
      some (part :: parts, rest)
    | rest => some ([part], rest)

/-- Reads a dotted key: the parts before the last, the last, and what follows. -/
def readPath (t : Text) : Option (List Text × Text × Text) := do
  let (parts, rest) ← readKey (depthLimit - 1) t
  let last ← parts.getLast?
  some (parts.dropLast, last, rest)

/-! ## Values -/

/-- Whether a character may belong to a number, a date or a word. -/
def isScalar (c : Char) : Bool :=
  c.isAlphanum || c = '_' || c = '+' || c = '-' || c = '.' || c = ':'

/-- The value of a word, a number or a date. -/
def ofWord? (word : Text) : Option Toml :=
  if word = "true" then some (boolean true)
  else if word = "false" then some (boolean false)
  else readInteger? word <|> readFloat? word <|> readDatetime? word

/-- Reads a word, a number or a date. A space, too, may separate a date from a time. -/
def readScalar (t : Text) : Option (Toml × Text) :=
  let (word, rest) := t.span isScalar
  match rest with
  | ' ' :: c :: tail =>
    let (time, rest') := (c :: tail).span isScalar
    if isDate word ∧ Text.isAsciiDigit c then
      (readDatetime? (word ++ 'T' :: time)).map (·, rest')
    else (ofWord? word).map (·, rest)
  | _ => (ofWord? word).map (·, rest)

/-- The text without the blanks, comments and line breaks that it starts with, which may stand
between the items of a list; the flag says that a comment is being skipped. -/
def skipLines (comment : Bool) : Text → Option Text
  | [] => if comment then none else some []
  | '\n' :: rest => skipLines false rest
  | '\r' :: '\n' :: rest => skipLines false rest
  | c :: rest =>
    if comment then (if isPlain c then skipLines true rest else none)
    else if isSpace c then skipLines false rest
    else if c = '#' then skipLines true rest
    else some (c :: rest)

mutual

/-- Reads a value at a depth of nesting, with at most `fuel` nested reads. -/
def readValue (depth : Nat) : Nat → Text → Option (Toml × Text)
  | 0, _ => none
  | fuel + 1, t =>
    match t with
    | '"' :: _ => (readString t).map fun (s, rest) => (string s, rest)
    | '\'' :: _ => (readString t).map fun (s, rest) => (string s, rest)
    | '[' :: rest =>
      if depthLimit ≤ depth + 1 then none
      else (readItems (depth + 1) fuel rest).map fun (items, rest) => (array items, rest)
    | '{' :: rest =>
      if depthLimit ≤ depth + 1 then none
      else
        match skipSpaces rest with
        | '}' :: rest => some (table [], rest)
        | _ => do
          let (entries, rest) ← readEntries (depth + 1) fuel rest
          let items ← Entries.insertAll? entries []
          some (table (ofEntries items), rest)
    | _ => readScalar t

/-- Reads the items of a list up to its closing bracket; a comma may stand before it. -/
def readItems (depth : Nat) : Nat → Text → Option (List Toml × Text)
  | 0, _ => none
  | fuel + 1, t => do
    match ← skipLines false t with
    | ']' :: rest => some ([], rest)
    | t =>
      let (item, rest) ← readValue depth fuel t
      match ← skipLines false rest with
      | ',' :: rest =>
        let (items, rest) ← readItems depth fuel rest
        some (item :: items, rest)
      | ']' :: rest => some ([item], rest)
      | _ => none

/-- Reads the entries of an inline table up to its closing brace. -/
def readEntries (depth : Nat) : Nat → Text → Option (List Entries.Entry × Text)
  | 0, _ => none
  | fuel + 1, t => do
    let (path, key, rest) ← readPath t
    let '=' :: rest := rest | none
    let (v, rest) ← readValue depth fuel (skipSpaces rest)
    match skipSpaces rest with
    | ',' :: rest =>
      let (entries, rest) ← readEntries depth fuel rest
      some ((path, key, v) :: entries, rest)
    | '}' :: rest => some ([(path, key, v)], rest)
    | _ => none

end

/-- Reads an entry and the end of its line. -/
def readEntry (t : Text) : Option (Entries.Entry × Text) := do
  let (path, key, rest) ← readPath t
  let '=' :: rest := rest | none
  let (v, rest) ← readValue 0 (2 * t.length + 2) (skipSpaces rest)
  some ((path, key, v), ← endLine? rest)

/-! ## Documents -/

/-- What a line of a document holds. -/
inductive Line where
  /-- A value under a key. -/
  | entry (e : Entries.Entry)
  /-- The header of a table. -/
  | header (path : List Text) (key : Text)
  /-- The header of one of several tables. -/
  | headers (path : List Text) (key : Text)

/-- Reads the lines of a document, at most `fuel` of them. -/
def readLines : Nat → Text → Option (List Line)
  | 0, _ => none
  | fuel + 1, t =>
    match skipSpaces t with
    | [] => some []
    | '#' :: rest => do readLines fuel (← endLine? ('#' :: rest))
    | '\n' :: rest => readLines fuel rest
    | '\r' :: '\n' :: rest => readLines fuel rest
    | '[' :: '[' :: rest => do
      let (path, key, rest) ← readPath rest
      let ']' :: ']' :: rest := rest | none
      let lines ← readLines fuel (← endLine? rest)
      some (.headers path key :: lines)
    | '[' :: rest => do
      let (path, key, rest) ← readPath rest
      let ']' :: rest := rest | none
      let lines ← readLines fuel (← endLine? rest)
      some (.header path key :: lines)
    | t => do
      let (e, rest) ← readEntry t
      let lines ← readLines fuel rest
      some (.entry e :: lines)

/-- The entries up to the next header, and the lines from there on. -/
def spanEntries : List Line → List Entries.Entry × List Line
  | .entry e :: rest => let (entries, lines) := spanEntries rest; (e :: entries, lines)
  | lines => ([], lines)

/-- Adds the tables of lines to a document, at most `fuel` of them. -/
def addTables? : Nat → List Line → Entries → Option Entries
  | 0, _, _ => none
  | fuel + 1, lines, entries =>
    match lines with
    | [] => some entries
    | .entry _ :: _ => none
    | .header path key :: rest => do
      let (added, lines) := spanEntries rest
      addTables? fuel lines (← entries.openTable? path key added)
    | .headers path key :: rest => do
      let (added, lines) := spanEntries rest
      addTables? fuel lines (← entries.appendTable? path key added)

/-- The entries of a document. A byte order mark at its start does not count. -/
def read? (t : Text) : Option (List (Text × Toml)) := do
  let t := match t with
    | '\uFEFF' :: rest => rest
    | t => t
  let lines ← readLines (t.length + 1) t
  let (added, lines) := spanEntries lines
  let entries ← addTables? (lines.length + 1) lines (← Entries.insertAll? added [])
  some (ofEntries entries)

end TwoWaySql.Toml

import TwoWaySql.Binary64.Notation
import TwoWaySql.Json.Basic

/-!
# Writing JSON

Two layouts of one document: on one line without blanks, and with each item on a line of its own,
indented by two spaces a level. Strings escape quotes, backslashes and control characters.
-/
namespace TwoWaySql.Json

/-- The digit that writes a number below sixteen. -/
def hexDigit (n : Nat) : Char := if n < 10 then Char.ofNat (48 + n) else Char.ofNat (87 + n)

/-- One character inside a string. -/
def escape (c : Char) : Text :=
  if c = '"' then ['\\', '"']
  else if c = '\\' then ['\\', '\\']
  else if c = '\x08' then ['\\', 'b']
  else if c = '\x0c' then ['\\', 'f']
  else if c = '\n' then ['\\', 'n']
  else if c = '\r' then ['\\', 'r']
  else if c = '\t' then ['\\', 't']
  else if c.toNat < 0x20 then
    ['\\', 'u', '0', '0', hexDigit (c.toNat / 16), hexDigit (c.toNat % 16)]
  else [c]

/-- A string with its quotes. -/
def quote (t : Text) : Text := '"' :: t.flatMap escape ++ ['"']

/-- A number that is no integer; only finite ones have a form. -/
def writeFloat (x : Binary64) : Text :=
  if Binary64.infiniteMagnitude ≤ x.magnitude then "null" else x.stored

mutual

/-- The document on one line. -/
def compact : Json → Text
  | null => "null"
  | bool b => if b then "true" else "false"
  | int i => Text.ofInt i
  | float x => writeFloat x
  | string t => quote t
  | array [] => "[]"
  | array (item :: items) => '[' :: compact item ++ compactItems items
  | object [] => ['{', '}']
  | object ((name, value) :: members) =>
    '{' :: quote name ++ ':' :: compact value ++ compactMembers members

/-- The items after the first, and the closing bracket. -/
def compactItems : List Json → Text
  | [] => "]"
  | item :: items => ',' :: compact item ++ compactItems items

/-- The members after the first, and the closing brace. -/
def compactMembers : List (Text × Json) → Text
  | [] => ['}']
  | (name, value) :: members =>
    ',' :: quote name ++ ':' :: compact value ++ compactMembers members

end

/-- The start of a line at a depth of nesting. -/
def newline (depth : Nat) : Text := '\n' :: List.replicate (2 * depth) ' '

mutual

/-- The document on several lines, its own items at `depth + 1`. -/
def prettyAt (depth : Nat) : Json → Text
  | array [] => "[]"
  | array (item :: items) =>
    '[' :: newline (depth + 1) ++ prettyAt (depth + 1) item ++ prettyItems depth items
  | object [] => ['{', '}']
  | object ((name, value) :: members) =>
    '{' :: newline (depth + 1) ++ quote name ++ ": " ++ prettyAt (depth + 1) value ++
      prettyMembers depth members
  | null => "null"
  | bool b => if b then "true" else "false"
  | int i => Text.ofInt i
  | float x => writeFloat x
  | string t => quote t

/-- The items after the first, and the closing bracket on a line of its own. -/
def prettyItems (depth : Nat) : List Json → Text
  | [] => newline depth ++ "]"
  | item :: items =>
    ',' :: newline (depth + 1) ++ prettyAt (depth + 1) item ++ prettyItems depth items

/-- The members after the first, and the closing brace on a line of its own. -/
def prettyMembers (depth : Nat) : List (Text × Json) → Text
  | [] => newline depth ++ ['}']
  | (name, value) :: members =>
    ',' :: newline (depth + 1) ++ quote name ++ ": " ++ prettyAt (depth + 1) value ++
      prettyMembers depth members

end

/-- The document on several lines. -/
def pretty (json : Json) : Text := prettyAt 0 json

end TwoWaySql.Json

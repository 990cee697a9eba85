import TwoWaySql.Json.Number

/-!
# Reading JSON

The reader takes one document from a text with blanks around it and nothing else. Strings hold
scalar values: an escaped pair of surrogates is one character, and half of a pair is none. Lists and
objects stand inside one another to a limited depth.
-/
namespace TwoWaySql.Json

/-- The text without the blanks it starts with. -/
def skipBlanks (t : Text) : Text :=
  t.dropWhile fun c => c = ' ' || c = '\n' || c = '\r' || c = '\t'

/-- The value of a hexadecimal digit. -/
def hexValue? (c : Char) : Option Nat :=
  if '0' ≤ c ∧ c ≤ '9' then some (c.toNat - 48)
  else if 'a' ≤ c ∧ c ≤ 'f' then some (c.toNat - 87)
  else if 'A' ≤ c ∧ c ≤ 'F' then some (c.toNat - 55)
  else none

/-- The value of four hexadecimal digits. -/
def hex4? (a b c d : Char) : Option Nat := do
  some (((← hexValue? a) * 16 + (← hexValue? b)) * 256 + (← hexValue? c) * 16 + (← hexValue? d))

/-- The character that a backslash and one letter stand for. -/
def unescape? (c : Char) : Option Char :=
  match c with
  | '"' => some '"'
  | '\\' => some '\\'
  | '/' => some '/'
  | 'b' => some '\x08'
  | 'f' => some '\x0c'
  | 'n' => some '\n'
  | 'r' => some '\r'
  | 't' => some '\t'
  | _ => none

/-- Puts a code unit in front of what the rest of a string reads as. -/
def consUnit (unit : Nat) : List Nat × Text → List Nat × Text :=
  fun (units, rest) => (unit :: units, rest)

/-- Reads a string after its opening quote, and its closing quote, as code points and the halves of
surrogate pairs. -/
def readUnits : Text → Option (List Nat × Text)
  | '"' :: rest => some ([], rest)
  | '\\' :: 'u' :: a :: b :: c :: d :: rest => do
    let unit ← hex4? a b c d
    (readUnits rest).map (consUnit unit)
  | '\\' :: c :: rest => do
    let c ← unescape? c
    (readUnits rest).map (consUnit c.toNat)
  | c :: rest =>
    if c.toNat < 0x20 ∨ c = '\\' then none else (readUnits rest).map (consUnit c.toNat)
  | [] => none

/-- The text of code points and pairs of surrogates, if no half stands alone. -/
def ofUnits? : List Nat → Option Text
  | [] => some []
  | unit :: units =>
    if 0xD800 ≤ unit ∧ unit < 0xDC00 then
      match units with
      | [] => none
      | low :: units =>
        if 0xDC00 ≤ low ∧ low < 0xE000 then
          (ofUnits? units).map
            (Char.ofNat (0x10000 + (unit - 0xD800) * 0x400 + (low - 0xDC00)) :: ·)
        else none
    else if 0xDC00 ≤ unit ∧ unit < 0xE000 then none
    else (ofUnits? units).map (Char.ofNat unit :: ·)

/-- Reads a string after its opening quote, and its closing quote. -/
def readString (t : Text) : Option (Option Text × Text) :=
  (readUnits t).map fun (units, rest) => (ofUnits? units, rest)

/-- The rest of a text after a word that it starts with. -/
def readWord (word : Text) (json : Json) (t : Text) : Option (Json × Text) :=
  if word.isPrefixOf t then some (json, t.drop word.length) else none

/-- What becomes of a literal that is well formed but has no value: a number beyond the finite
range, or a string with half of a surrogate pair. -/
inductive Tolerance where
  /-- The document is refused. -/
  | refuse
  /-- It reads as `null`, and a member of such a name is left out. -/
  | void
deriving DecidableEq, Repr

/-- Whether a list or an object may stand inside `depth` others. What is only passed over may stand
at any depth. -/
def Tolerance.opens : Tolerance → Nat → Bool
  | .refuse, depth => depth < 127
  | .void, _ => true

/-- A literal as it is read. -/
def literal? : Tolerance → Option Json → Option Json
  | .refuse, json => json
  | .void, json => some (json.getD null)

/-- Puts a member in front of others. -/
def consMember? : Tolerance → Option Text → Json → List (Text × Json) → Option (List (Text × Json))
  | _, some name, value, members => some ((name, value) :: members)
  | .refuse, none, _, _ => none
  | .void, none, _, members => some members

mutual

/-- Reads a document at the start of a text, inside `depth` lists and objects, with at most `fuel`
nested reads. -/
def readValue (tolerance : Tolerance) (depth : Nat) : Nat → Text → Option (Json × Text)
  | 0, _ => none
  | fuel + 1, t =>
    match skipBlanks t with
    | [] => none
    | '"' :: rest => do
      let (s, rest) ← readString rest
      some (← literal? tolerance (s.map string), rest)
    | '[' :: rest => do
      guard (tolerance.opens depth)
      match skipBlanks rest with
      | ']' :: rest => some (array [], rest)
      | _ =>
        (readItems tolerance (depth + 1) fuel rest).map fun (items, rest) => (array items, rest)
    | '{' :: rest => do
      guard (tolerance.opens depth)
      match skipBlanks rest with
      | '}' :: rest => some (object [], rest)
      | _ =>
        (readMembers tolerance (depth + 1) fuel rest).map fun (members, rest) =>
          (object members, rest)
    | 'n' :: rest => readWord "ull" null rest
    | 't' :: rest => readWord "rue" (bool true) rest
    | 'f' :: rest => readWord "alse" (bool false) rest
    | t => do
      let (n, rest) ← readNumber t
      some (← literal? tolerance n, rest)

/-- Reads the items of a list up to its closing bracket. -/
def readItems (tolerance : Tolerance) (depth : Nat) : Nat → Text → Option (List Json × Text)
  | 0, _ => none
  | fuel + 1, t => do
    let (item, rest) ← readValue tolerance depth fuel t
    match skipBlanks rest with
    | ',' :: rest =>
      let (items, rest) ← readItems tolerance depth fuel rest
      some (item :: items, rest)
    | ']' :: rest => some ([item], rest)
    | _ => none

/-- Reads the members of an object up to its closing brace. -/
def readMembers (tolerance : Tolerance) (depth : Nat) :
    Nat → Text → Option (List (Text × Json) × Text)
  | 0, _ => none
  | fuel + 1, t => do
    let '"' :: rest := skipBlanks t | none
    let (name, rest) ← readString rest
    let ':' :: rest := skipBlanks rest | none
    let (value, rest) ← readValue tolerance depth fuel rest
    match skipBlanks rest with
    | ',' :: rest =>
      let (members, rest) ← readMembers tolerance depth fuel rest
      some (← consMember? tolerance name value members, rest)
    | '}' :: rest => some (← consMember? tolerance name value [], rest)
    | _ => none

end

/-- Reads a text as one document. Each nested read takes a character, so the fuel suffices. -/
def readWith? (tolerance : Tolerance) (t : Text) : Option Json := do
  let (json, rest) ← readValue tolerance 0 (2 * t.length + 2) t
  guard (skipBlanks rest).isEmpty
  some json

/-- Reads a text as one document all of whose literals have a value. -/
def read? (t : Text) : Option Json := readWith? .refuse t

end TwoWaySql.Json

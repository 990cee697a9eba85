import TwoWaySql.Json.Reader
import TwoWaySql.Toml.Basic

/-!
# TOML strings

Four forms: basic strings with escapes and literal strings without, each on one line or on
several. In the long forms a line break right behind the opening quotes does not count, every
line break is a line feed, and up to two quotes may stand before the closing three.
-/
namespace TwoWaySql.Toml

/-- Puts a character in front of what the rest of a string reads as. -/
def consChar (c : Char) : Text × Text → Text × Text := fun (t, rest) => (c :: t, rest)

/-- The character of a hexadecimal number, unless it is a surrogate or beyond the last. -/
def scalar? (digits : Text) : Option Char := do
  let n ← digits.foldlM (fun n c => (Json.hexValue? c).map (16 * n + ·)) 0
  if n < 0xD800 ∨ (0xE000 ≤ n ∧ n < 0x110000) then some (Char.ofNat n) else none

/-- The character that one letter behind a backslash stands for. -/
def unescape? (c : Char) : Option Char :=
  match c with
  | 'b' => some '\x08'
  | 't' => some '\t'
  | 'n' => some '\n'
  | 'f' => some '\x0c'
  | 'r' => some '\r'
  | '"' => some '"'
  | '\\' => some '\\'
  | _ => none

/-- Reads a basic string behind its opening quote. -/
def readBasic : Text → Option (Text × Text)
  | [] => none
  | '"' :: rest => some ([], rest)
  | '\\' :: 'u' :: a :: b :: c :: d :: rest => do
    let ch ← scalar? [a, b, c, d]
    (readBasic rest).map (consChar ch)
  | '\\' :: 'U' :: a :: b :: c :: d :: e :: f :: g :: h :: rest => do
    let ch ← scalar? [a, b, c, d, e, f, g, h]
    (readBasic rest).map (consChar ch)
  | '\\' :: c :: rest => do
    let ch ← unescape? c
    (readBasic rest).map (consChar ch)
  | c :: rest => if isPlain c then (readBasic rest).map (consChar c) else none

/-- Reads a literal string behind its opening quote. -/
def readLiteral : Text → Option (Text × Text)
  | [] => none
  | '\'' :: rest => some ([], rest)
  | c :: rest => if isPlain c then (readLiteral rest).map (consChar c) else none

/-- The end of a long string whose last quotes a text starts with: the quotes that belong to the
string, and what follows. -/
def closeLong (quote : Char) (t : Text) : Option (Text × Text) :=
  let quotes := t.takeWhile (· = quote)
  if 3 ≤ quotes.length ∧ quotes.length ≤ 5 then
    some (quotes.drop 3, t.dropWhile (· = quote))
  else none

/-- Whether the rest of a line is blank and the line ends. -/
def endsLine (t : Text) : Bool := (newline? (skipSpaces t)).isSome

/-- Reads a long basic string behind its opening quotes; the flag says that the blanks and line
breaks behind a backslash at the end of a line are being skipped. -/
def readLongBasic (skipping : Bool) : Text → Option (Text × Text)
  | [] => none
  | '"' :: '"' :: '"' :: rest => closeLong '"' ('"' :: '"' :: '"' :: rest)
  | '\\' :: 'u' :: a :: b :: c :: d :: rest => do
    let ch ← scalar? [a, b, c, d]
    (readLongBasic false rest).map (consChar ch)
  | '\\' :: 'U' :: a :: b :: c :: d :: e :: f :: g :: h :: rest => do
    let ch ← scalar? [a, b, c, d, e, f, g, h]
    (readLongBasic false rest).map (consChar ch)
  | '\\' :: c :: rest =>
    if endsLine (c :: rest) then readLongBasic true (c :: rest)
    else
      match unescape? c with
      | some ch => (readLongBasic false rest).map (consChar ch)
      | none => none
  | '\r' :: '\n' :: rest =>
    if skipping then readLongBasic true rest
    else (readLongBasic false rest).map (consChar '\n')
  | c :: rest =>
    if skipping && (isSpace c || c = '\n') then readLongBasic true rest
    else if isPlain c || c = '\n' then (readLongBasic false rest).map (consChar c)
    else none

/-- Reads a long literal string behind its opening quotes. -/
def readLongLiteral : Text → Option (Text × Text)
  | [] => none
  | '\'' :: '\'' :: '\'' :: rest => closeLong '\'' ('\'' :: '\'' :: '\'' :: rest)
  | '\r' :: '\n' :: rest => (readLongLiteral rest).map (consChar '\n')
  | c :: rest =>
    if isPlain c || c = '\n' then (readLongLiteral rest).map (consChar c) else none

/-- The text without a line break that it starts with. -/
def skipNewline (t : Text) : Text := (newline? t).getD t

/-- Reads a string of any form at the start of a text. -/
def readString : Text → Option (Text × Text)
  | '"' :: '"' :: '"' :: rest => readLongBasic false (skipNewline rest)
  | '\'' :: '\'' :: '\'' :: rest => readLongLiteral (skipNewline rest)
  | '"' :: rest => readBasic rest
  | '\'' :: rest => readLiteral rest
  | _ => none

end TwoWaySql.Toml

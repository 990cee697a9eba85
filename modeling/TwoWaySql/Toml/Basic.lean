import TwoWaySql.Binary64.Basic
import TwoWaySql.Text.Basic

/-!
# TOML values

The values of a TOML document. Dates and times keep the text they are written in.
-/
namespace TwoWaySql

/-- A TOML value. -/
inductive Toml where
  /-- A string. -/
  | string (t : Text)
  /-- A signed 64-bit integer. -/
  | integer (i : Int64)
  /-- A floating point number. -/
  | float (x : Binary64)
  /-- A truth value. -/
  | boolean (b : Bool)
  /-- A date, a time, or both. -/
  | datetime (t : Text)
  /-- A list of values. -/
  | array (items : List Toml)
  /-- Named values. -/
  | table (entries : List (Text × Toml))
deriving Repr

namespace Toml

instance : Inhabited Toml := ⟨.table []⟩

/-! ## Lexical matters -/

/-- Whether a character is a blank inside a line. -/
def isSpace (c : Char) : Bool := c = ' ' || c = '\t'

/-- Whether a character may stand in a comment or a literal string. -/
def isPlain (c : Char) : Bool := c = '\t' || (0x20 ≤ c.toNat && c.toNat ≠ 0x7F)

/-- Whether a character may stand in a key without quotes. -/
def isBareKey (c : Char) : Bool := c.isAlphanum || c = '_' || c = '-'

/-- The text without the blanks of a line that it starts with. -/
def skipSpaces (t : Text) : Text := t.dropWhile isSpace

/-- The text behind a line break. -/
def newline? : Text → Option Text
  | '\n' :: rest => some rest
  | '\r' :: '\n' :: rest => some rest
  | _ => none

/-- The text without a comment that it starts with. -/
def skipComment : Text → Text
  | '#' :: rest => rest.dropWhile isPlain
  | t => t

/-- The text behind blanks, a comment and the end of a line, the end of the text ending a line
too. -/
def endLine? (t : Text) : Option Text :=
  match skipComment (skipSpaces t) with
  | [] => some []
  | rest => newline? rest

end Toml

end TwoWaySql

import TwoWaySql.Text.Basic
import TwoWaySql.Text.Printable

/-!
# Quoted text

A text in double quotes, each character either itself or an escape: a letter for the common
control characters, a backslash before a quote or a backslash, and the code point in braces for
whatever cannot be shown by itself.
-/
namespace TwoWaySql.Text

/-- One character inside quotes. -/
def escape (c : Char) : Text :=
  if c = '\x00' then ['\\', '0']
  else if c = '\t' then ['\\', 't']
  else if c = '\r' then ['\\', 'r']
  else if c = '\n' then ['\\', 'n']
  else if c = '"' then ['\\', '"']
  else if c = '\\' then ['\\', '\\']
  else if isPrintable c then [c]
  else ['\\', 'u', '{'] ++ Nat.toDigits 16 c.toNat ++ ['}']

/-- The text in double quotes. -/
def quoted (t : Text) : Text := '"' :: t.flatMap escape ++ ['"']

end TwoWaySql.Text

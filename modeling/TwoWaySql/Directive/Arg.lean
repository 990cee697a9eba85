import TwoWaySql.Text.Quoted

/-!
# Arguments

A token behind the keyword is a field reference, a quoted string or a bare word. What starts with
a dot and goes on is a reference; what starts and ends with a quote is a string.
-/
namespace TwoWaySql

/-- An argument of a directive. -/
inductive Arg where
  /-- The value of the named field. -/
  | field (name : Text)
  /-- The text of a quoted string, escapes resolved. -/
  | quoted (text : Text)
  /-- Any other token, as it stands. -/
  | bare (text : Text)
deriving DecidableEq, Repr

namespace Arg

/-- Resolves escapes: `\n` and `\t` are a line feed and a tab, a backslash before any other
character stands for that character, and one at the very end for itself. -/
def unescape : Text → Text
  | [] => []
  | ['\\'] => ['\\']
  | '\\' :: c :: rest => (if c = 'n' then '\n' else if c = 't' then '\t' else c) :: unescape rest
  | c :: rest => c :: unescape rest

/-- The argument that a token stands for. -/
def ofToken (token : Text) : Arg :=
  match token with
  | '.' :: c :: rest => field (c :: rest)
  | '"' :: rest => if rest.getLast? = some '"' then quoted (unescape rest.dropLast) else bare token
  | _ => bare token

/-- The name of the field that the argument refers to. -/
def fieldName? : Arg → Option Text
  | field name => some name
  | _ => none

/-- The argument as messages show it. -/
def describe : Arg → Text
  | field name => '.' :: name
  | quoted text => text.quoted
  | bare text => text

/-- The token or the resolved text of the argument, without any mark. -/
def text : Arg → Text
  | field name => name
  | quoted text => text
  | bare text => text

end Arg

end TwoWaySql

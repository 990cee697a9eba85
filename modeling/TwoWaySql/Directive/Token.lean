import TwoWaySql.Text.Blank

/-!
# Tokens

The body of a directive is a row of tokens between blanks. A blank inside double quotes belongs
to its token, and so do the quotes. A quote behind a backslash neither opens nor closes.
-/
namespace TwoWaySql.Token

/-- The runs between unquoted blanks, empty ones included. The flags say whether the text starts
inside quotes and behind a backslash. -/
def runs (quoted escaped : Bool) : Text → List Text
  | [] => [[]]
  | c :: rest =>
    let escapes : Bool := c = '\\'
    if c = '"' ∧ ¬escaped then Text.extend c (runs (!quoted) escapes rest)
    else if isBlank c ∧ ¬quoted then [] :: runs quoted escapes rest
    else Text.extend c (runs quoted escapes rest)

/-- The tokens of a directive body. Only a quote that is never closed leaves blanks at the end of
a run; they are trimmed. -/
def all (body : Text) : List Text :=
  ((runs false false body).map Text.trim).filter fun token => !token.isEmpty

end TwoWaySql.Token

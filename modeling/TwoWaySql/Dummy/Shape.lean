import TwoWaySql.Text.Blank
import TwoWaySql.Text.Digit

/-!
# Dummy literals

A dummy literal has one of four shapes: a list in parentheses, a string in single quotes, a
number, or a question mark. No two shapes start alike, so a text starts with at most one of them.
-/
namespace TwoWaySql

/-- The shapes of dummy literals. -/
inductive Shape where
  /-- From a parenthesis to the first closing one. -/
  | list
  /-- From a single quote to the next one. -/
  | quotedString
  /-- Digits after an optional minus sign, with an optional fraction. -/
  | number
  /-- A question mark. -/
  | placeholder
deriving DecidableEq, Repr

namespace Shape

/-- All shapes. -/
def all : List Shape := [list, quotedString, number, placeholder]

/-- The word for a shape. -/
def word : Shape → Text
  | list => "list"
  | quotedString => "quoted_string"
  | number => "number"
  | placeholder => "placeholder"

/-- The text up to and with the first `last`, and what follows. -/
def spanTo (last : Char) : Text → Option (Text × Text)
  | [] => none
  | c :: rest =>
    if c = last then some ([c], rest)
    else (spanTo last rest).map fun (literal, rest) => (c :: literal, rest)

/-- The digits that a text starts with, and what follows. -/
def spanDigits (t : Text) : Text × Text := t.span isDigit

/-- A fraction that a text starts with, and what follows. -/
def spanFraction : Text → Text × Text
  | '.' :: rest =>
    match spanDigits rest with
    | ([], _) => ([], '.' :: rest)
    | (digits, rest) => ('.' :: digits, rest)
  | t => ([], t)

/-- An unsigned number that a text starts with, and what follows. -/
def spanNumber (t : Text) : Option (Text × Text) :=
  match spanDigits t with
  | ([], _) => none
  | (digits, rest) =>
    let (fraction, rest) := spanFraction rest
    some (digits ++ fraction, rest)

/-- The longest literal of the shape that a text starts with, and what follows. -/
def read? (shape : Shape) (t : Text) : Option (Text × Text) :=
  match shape, t with
  | list, '(' :: rest => (spanTo ')' rest).map fun (l, rest) => ('(' :: l, rest)
  | quotedString, '\'' :: rest => (spanTo '\'' rest).map fun (l, rest) => ('\'' :: l, rest)
  | number, '-' :: rest => (spanNumber rest).map fun (l, rest) => ('-' :: l, rest)
  | number, t => spanNumber t
  | placeholder, '?' :: rest => some (['?'], rest)
  | _, _ => none

/-- Whether a text is empty or starts with a blank. -/
def atBoundary (t : Text) : Bool :=
  match t with
  | [] => true
  | c :: _ => isBlank c

end Shape

/-- A literal that a text starts with. -/
structure Literal where
  /-- Its shape. -/
  shape : Shape
  /-- The literal itself. -/
  text : Text
  /-- What follows it. -/
  rest : Text
deriving DecidableEq, Repr

namespace Literal

/-- The literal of one shape at the start of a text. -/
def ofShape? (t : Text) (shape : Shape) : Option Literal :=
  (shape.read? t).map fun (literal, rest) => ⟨shape, literal, rest⟩

/-- The literal at the start of a text. -/
def starting? (t : Text) : Option Literal := Shape.all.findSome? (ofShape? t)

/-- The literal at the start of a text, if nothing but a blank or the end follows it. -/
def dummy? (t : Text) : Option Literal :=
  Shape.all.findSome? fun shape =>
    (ofShape? t shape).filter fun literal => Shape.atBoundary literal.rest

end Literal

end TwoWaySql

import TwoWaySql.Query.Node
import TwoWaySql.Text.Alphanumeric
import TwoWaySql.Value.Literal

/-!
# Expansion

A tree is expanded against data into pieces: SQL text, and values that are bound where they
stand. How placeholders look plays no part here.
-/
namespace TwoWaySql

/-- A piece of an expanded template. -/
inductive Piece where
  /-- SQL text. -/
  | text (t : Text)
  /-- A bound value, with a placeholder in its place. -/
  | bound (v : Value)
deriving Repr

namespace Arg

/-- The value of an argument of a directive at a place. -/
def resolve (data : Data) (position : Position) : Arg → Except CompileError Value
  | field name =>
    match data name with
    | some value => .ok value
    | none => .error (.unresolvedField name position)
  | quoted text => .ok (.string text)
  | bare text =>
    match Value.ofLiteral? text with
    | some value => .ok value
    | none => .error (.notLiteral text position)

/-- The string that an argument of a directive is, the argument counted from one. -/
def resolveString (data : Data) (keyword : Keyword) (index : Nat) (position : Position)
    (arg : Arg) : Except CompileError Text := do
  match ← arg.resolve data position with
  | .string t => return t
  | other => .error (.typeMismatch keyword index .string other.typeWord position)

/-- The items of the list that an argument of a directive is, the argument counted from one. -/
def resolveList (data : Data) (keyword : Keyword) (index : Nat) (position : Position)
    (arg : Arg) : Except CompileError (List Value) := do
  match ← arg.resolve data position with
  | .list items => return items
  | other => .error (.typeMismatch keyword index .list other.typeWord position)

/-- The truth value that the condition of a block is. -/
def resolveCondition (data : Data) (position : Position) (arg : Arg) :
    Except CompileError Bool := do
  match ← arg.resolve data position with
  | .bool b => return b
  | other => .error (.typeMismatch .ifBlock 1 .boolean other.typeWord position)

end Arg

namespace Binder

/-- The type that is asked for. -/
def type : Binder → FieldType
  | param => .scalar
  | int => .integer
  | float => .float
  | string => .string

/-- The value as it is bound, if it has the right type. An integer serves as a floating point
number, rounded to the nearest. -/
def accept? : Binder → Value → Option Value
  | param, .list _ => none
  | param, value => some value
  | int, .int i => some (.int i)
  | float, .float x => some (.float x)
  | float, .int i => some (.float (Binary64.ofInt i.toInt))
  | string, .string t => some (.string t)
  | _, _ => none

end Binder

/-- The text between two copies. A word gets one space on each side, blanks are one space, and
punctuation stays as it is written. -/
def joiner (separator : Text) : Text :=
  let word := separator.trim
  if word.isEmpty then " "
  else if word.any isAlphanumeric then " " ++ word ++ " "
  else separator

namespace Piece

/-- The values bound in turn, a comma and a space between neighbours. -/
def bindAll : List Value → List Piece
  | [] => []
  | [item] => [bound item]
  | item :: items => bound item :: text ", " :: bindAll items

/-- One copy of a piece of SQL, each question mark in it bound to an item. -/
def copy (subTemplate : Text) (item : Value) : List Piece :=
  subTemplate.map fun c => if c = '?' then bound item else text [c]

/-- A copy of a piece of SQL for each item, with a text between neighbours. -/
def copies (subTemplate between : Text) : List Value → List Piece
  | [] => []
  | [item] => copy subTemplate item
  | item :: items => copy subTemplate item ++ text between :: copies subTemplate between items

end Piece

namespace Action

/-- The pieces that a directive at a place expands to. -/
def expand (data : Data) (position : Position) : Action → Except CompileError (List Piece)
  | bind binder arg => do
    let value ← arg.resolve data position
    match binder.accept? value with
    | some value => return [.bound value]
    | none => .error (.typeMismatch binder.keyword 1 binder.type value.typeWord position)
  | inList items => do
    let items ← items.resolveList data .inList 1 position
    return .text "(" :: Piece.bindAll items ++ [.text ")"]
  | multi subTemplate separator items => do
    let subTemplate ← subTemplate.resolveString data .multi 1 position
    let separator ← separator.resolveString data .multi 2 position
    let items ← items.resolveList data .multi 3 position
    return Piece.copies subTemplate (joiner separator) items

end Action

namespace Node

mutual

/-- The pieces that a node expands to. A block whose condition is false is not looked into. -/
def expand (data : Data) : Node → Except CompileError (List Piece)
  | text t => .ok [.text t]
  | action a p => a.expand data p
  | block condition p body => do
    if ← condition.resolveCondition data p then expandAll data body else return []

/-- The pieces that nodes expand to, in order; the first error counts. -/
def expandAll (data : Data) : List Node → Except CompileError (List Piece)
  | [] => .ok []
  | node :: nodes => do
    let pieces ← expand data node
    let rest ← expandAll data nodes
    return pieces ++ rest

end

end Node

end TwoWaySql

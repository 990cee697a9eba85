import TwoWaySql.Dummy.Strip
import TwoWaySql.Query.Expansion

/-!
# Queries

A query is SQL with placeholders and the values bound to them, in order. Compiling expands a
cleaned template and numbers the bound values; building strips the dummy literals first.
-/
namespace TwoWaySql

/-- How placeholders are written. -/
inductive PlaceholderStyle where
  /-- A question mark. -/
  | question
  /-- A dollar sign and the number of the argument, from one. -/
  | dollar
deriving DecidableEq, Repr

namespace PlaceholderStyle

/-- The word for a style. -/
def word : PlaceholderStyle → Text
  | question => "question"
  | dollar => "dollar"

/-- The style that a word stands for. -/
def ofWord? (word : Text) : Option PlaceholderStyle :=
  [question, dollar].find? (·.word = word)

/-- The placeholder of the `n`-th argument. -/
def placeholder (style : PlaceholderStyle) (n : Nat) : Text :=
  match style with
  | question => "?"
  | dollar => '$' :: Text.ofNat n

end PlaceholderStyle

/-- SQL with placeholders and the values bound to them. -/
structure Query where
  /-- The SQL text. -/
  sql : Text
  /-- The bound values, in the order of their placeholders. -/
  args : List Value
deriving Repr

namespace Piece

/-- The SQL of pieces, `bound` values having been bound before them. -/
def sql (style : PlaceholderStyle) (before : Nat) : List Piece → Text
  | [] => []
  | text t :: rest => t ++ sql style before rest
  | bound _ :: rest => style.placeholder (before + 1) ++ sql style (before + 1) rest

/-- The values that are bound in pieces. -/
def args : List Piece → List Value
  | [] => []
  | text _ :: rest => args rest
  | bound v :: rest => v :: args rest

end Piece

namespace Query

/-- The query of an expanded template. -/
def ofPieces (style : PlaceholderStyle) (pieces : List Piece) : Query :=
  ⟨Piece.sql style 0 pieces, Piece.args pieces⟩

/-- The query of a cleaned template for data. -/
def compile (style : PlaceholderStyle) (cleaned : Text) (data : Data) :
    Except CompileError Query := do
  let nodes ← Node.ofText? cleaned
  let pieces ← Node.expandAll data nodes
  return ofPieces style pieces

/-- The query of a template for data. -/
def build (style : PlaceholderStyle) (template : Text) (data : Data) :
    Except CompileError Query :=
  compile style (strip template) data

end Query

end TwoWaySql

import TwoWaySql.Text.Basic

/-!
# Fields

A template names the fields that its caller has to supply. The directives that use a field give
it a type.
-/
namespace TwoWaySql

/-- What a directive wants an argument to be. -/
inductive FieldType where
  /-- A string. -/
  | string
  /-- An integer. -/
  | integer
  /-- A floating point number. -/
  | float
  /-- A truth value. -/
  | boolean
  /-- Anything but a list. -/
  | scalar
  /-- A list. -/
  | list
deriving DecidableEq, Repr

namespace FieldType

/-- All types. -/
def all : List FieldType := [string, integer, float, boolean, scalar, list]

/-- The word for a type. -/
def word : FieldType → Text
  | string => "string"
  | integer => "integer"
  | float => "float"
  | boolean => "boolean"
  | scalar => "scalar"
  | list => "list"

/-- The type that a word stands for. -/
def ofWord? (word : Text) : Option FieldType := all.find? (·.word = word)

end FieldType

/-- A field that a template refers to. -/
structure Field where
  /-- The name, without the dot that marks a reference. -/
  name : Text
  /-- The type that the directive asks for. -/
  type : FieldType
deriving DecidableEq, Repr

end TwoWaySql

import TwoWaySql.Field

/-!
# The catalog of directives

Eight keywords are known. Each has a signature: for every argument its part in the directive and
the type it has to have.
-/
namespace TwoWaySql

/-- A keyword of the catalog. -/
inductive Keyword where
  /-- Binds any value but a list. -/
  | param
  /-- Binds an integer. -/
  | int
  /-- Binds a number as a floating point number. -/
  | float
  /-- Binds a string. -/
  | string
  /-- Opens a block that is kept when its condition holds. -/
  | ifBlock
  /-- Binds the items of a list, in parentheses. -/
  | inList
  /-- Repeats a piece of SQL for each item of a list. -/
  | multi
  /-- Closes the innermost block. -/
  | endBlock
deriving DecidableEq, Repr

/-- The part that an argument plays in its directive. -/
inductive Role where
  /-- What is bound. -/
  | value
  /-- What decides about a block. -/
  | condition
  /-- The items. -/
  | list
  /-- The SQL that is repeated. -/
  | subTemplate
  /-- What stands between the copies. -/
  | separator
deriving DecidableEq, Repr

namespace Role

/-- The word for a role. -/
def word : Role → Text
  | value => "value"
  | condition => "condition"
  | list => "list"
  | subTemplate => "sub_template"
  | separator => "separator"

end Role

namespace Keyword

/-- All keywords. -/
def all : List Keyword := [param, int, float, string, ifBlock, inList, multi, endBlock]

/-- The keyword as it is written. -/
def word : Keyword → Text
  | param => "param"
  | int => "int"
  | float => "float"
  | string => "string"
  | ifBlock => "if"
  | inList => "in"
  | multi => "multi"
  | endBlock => "end"

/-- The keyword that is written so. -/
def ofWord? (word : Text) : Option Keyword := all.find? (·.word = word)

/-- The role and the type of each argument. -/
def signature : Keyword → List (Role × FieldType)
  | param => [(.value, .scalar)]
  | int => [(.value, .integer)]
  | float => [(.value, .float)]
  | string => [(.value, .string)]
  | ifBlock => [(.condition, .boolean)]
  | inList => [(.list, .list)]
  | multi => [(.subTemplate, .string), (.separator, .string), (.list, .list)]
  | endBlock => []

/-- The number of arguments. -/
def arity (k : Keyword) : Nat := k.signature.length

/-- Every keyword is read back from its word. -/
@[simp] theorem ofWord?_word (k : Keyword) : ofWord? k.word = some k := by
  cases k <;> decide

end Keyword

end TwoWaySql

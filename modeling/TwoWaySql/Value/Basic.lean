import TwoWaySql.Json.Writer
import TwoWaySql.Text.Quoted

/-!
# Values

A value is what data supply for a field and what a query binds to a placeholder.
-/
namespace TwoWaySql

/-- A value of a field. -/
inductive Value where
  /-- The absent value of a database. -/
  | null
  /-- A truth value. -/
  | bool (b : Bool)
  /-- A signed 64-bit integer. -/
  | int (i : Int64)
  /-- A floating point number. -/
  | float (x : Binary64)
  /-- A string. -/
  | string (t : Text)
  /-- A list of values. -/
  | list (items : List Value)
deriving Repr

/-- The data of a template: the value of each field that they have. -/
abbrev Data := Text → Option Value

namespace Value

instance : Inhabited Value := ⟨.null⟩

/-- The word for the type of a value. -/
def typeWord : Value → Text
  | null => "null"
  | bool _ => "boolean"
  | int _ => "integer"
  | float _ => "float"
  | string _ => "string"
  | list _ => "list"

mutual

/-- The value as messages show it. -/
def describe : Value → Text
  | null => "NULL"
  | bool b => if b then "true" else "false"
  | int i => Text.ofInt i.toInt
  | float x => x.describe
  | string t => t.quoted
  | list [] => "[]"
  | list (item :: items) => '[' :: describe item ++ describeRest items

/-- The items after the first, and the closing bracket. -/
def describeRest : List Value → Text
  | [] => "]"
  | item :: items => ", " ++ describe item ++ describeRest items

end

/-- Why an integer is not a value. -/
inductive RangeError where
  /-- It is above the 64-bit range. -/
  | tooLarge
  /-- It is below the 64-bit range. -/
  | tooSmall
deriving DecidableEq, Repr

/-- The wording for people. -/
def RangeError.message : RangeError → Text
  | tooLarge => "number too large to fit in target type"
  | tooSmall => "number too small to fit in target type"

/-- The value of an integer, if it is in the signed 64-bit range. -/
def ofInt (i : Int) : Except RangeError Value :=
  if i < Int64.minValue.toInt then .error .tooSmall
  else if Int64.maxValue.toInt < i then .error .tooLarge
  else .ok (int (Int64.ofInt i))

end Value

end TwoWaySql

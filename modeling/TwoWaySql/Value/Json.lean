import TwoWaySql.Binary64.Rounding
import TwoWaySql.Value.Basic

/-!
# Values and JSON

Every value has a JSON form. A document has a value when no object occurs in it. The value is
found in two ways: by the kind of the document, and by the first alternative that takes it.
-/
namespace TwoWaySql.Value

mutual

/-- The JSON form of a value. -/
def toJson : Value → Json
  | null => .null
  | bool b => .bool b
  | int i => .int i.toInt
  | float x => .float x
  | string t => .string t
  | list items => .array (toJsonAll items)

/-- The JSON forms of a list of values. -/
def toJsonAll : List Value → List Json
  | [] => []
  | item :: items => toJson item :: toJsonAll items

end

/-- The value of any integer: an integer in the signed 64-bit range, and outside it the nearest
floating point number. -/
def ofInteger (i : Int) : Value :=
  match ofInt i with
  | .ok value => value
  | .error _ => float (Binary64.ofInt i)

mutual

/-- The value of a document by its kind; an object has none. -/
def ofJson? : Json → Option Value
  | .null => some null
  | .bool b => some (bool b)
  | .int i => some (ofInteger i)
  | .float x => some (float x)
  | .string t => some (string t)
  | .array items => (ofJsonAll? items).map list
  | .object _ => none

/-- The values of a list of documents, if each has one. -/
def ofJsonAll? : List Json → Option (List Value)
  | [] => some []
  | item :: items => do
    let value ← ofJson? item
    let values ← ofJsonAll? items
    some (value :: values)

end

/-- The null value, of the document `null`. -/
def asNull? : Json → Option Value
  | .null => some null
  | _ => none

/-- A truth value. -/
def asBool? : Json → Option Value
  | .bool b => some (bool b)
  | _ => none

/-- An integer of the signed 64-bit range. -/
def asInt? : Json → Option Value
  | .int i => (ofInt i).toOption
  | _ => none

/-- A floating point number, of any number. -/
def asFloat? : Json → Option Value
  | .int i => some (float (Binary64.ofInt i))
  | .float x => some (float x)
  | _ => none

/-- A string. -/
def asString? : Json → Option Value
  | .string t => some (string t)
  | _ => none

mutual

/-- The value of a document by the first alternative that takes it: null, truth value, integer,
floating point number, string, list. -/
def untagged? : Json → Option Value
  | .array items => (untaggedAll? items).map list
  | json =>
    asNull? json <|> asBool? json <|> asInt? json <|> asFloat? json <|> asString? json

/-- The values of a list of documents by their first alternatives, if each has one. -/
def untaggedAll? : List Json → Option (List Value)
  | [] => some []
  | item :: items => do
    let value ← untagged? item
    let values ← untaggedAll? items
    some (value :: values)

end

end TwoWaySql.Value

namespace TwoWaySql.Data

/-- The data of a document: the members of an object that have a value. -/
def ofJson (json : Json) : Data := fun name => (json.member? name).bind Value.ofJson?

end TwoWaySql.Data

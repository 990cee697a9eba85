import TwoWaySql.Extraction
import TwoWaySql.Query.Basic

/-!
# Templates with data

A template together with the fields it is to be compiled with and the style of its placeholders.
-/
namespace TwoWaySql

/-- Named values. -/
structure Fields where
  /-- The names and their values. -/
  entries : List (Text × Value)
  /-- No name occurs twice. -/
  nodup : (entries.map (·.1)).Nodup
deriving Repr

namespace Fields

/-- No fields. -/
def empty : Fields := ⟨[], List.nodup_nil⟩

/-- The number of fields. -/
def size (fields : Fields) : Nat := fields.entries.length

/-- The value of a field. -/
def get? (fields : Fields) (name : Text) : Option Value :=
  (fields.entries.find? (·.1 = name)).map (·.2)

/-- The fields without one name. -/
def erase (fields : Fields) (name : Text) : Fields where
  entries := fields.entries.filter fun entry => !decide (entry.1 = name)
  nodup := fields.nodup.sublist (List.filter_sublist.map _)

/-- The fields with a value for one name. -/
def insert (fields : Fields) (name : Text) (value : Value) : Fields where
  entries := (name, value) :: (fields.erase name).entries
  nodup := List.nodup_cons.2 ⟨by simp [erase], (fields.erase name).nodup⟩

/-- The fields of a list, of two with one name the later. -/
def ofList (entries : List (Text × Value)) : Fields :=
  entries.foldl (fun fields (name, value) => fields.insert name value) empty

@[simp] theorem get?_empty (name : Text) : empty.get? name = none := rfl

@[simp] theorem get?_insert_self (fields : Fields) (name : Text) (value : Value) :
    (fields.insert name value).get? name = some value := by
  simp [insert, get?]

end Fields

/-- A template with its data. -/
structure QueryElement where
  /-- The template, dummy literals included. -/
  template : Text
  /-- The data. -/
  fields : Fields
  /-- How placeholders are written. -/
  style : PlaceholderStyle

namespace QueryElement

/-- No template, no fields, question marks. -/
def empty : QueryElement := ⟨[], .empty, .question⟩

/-- The query of the template for its data. -/
def query (e : QueryElement) : Except CompileError Query :=
  Query.build e.style e.template e.fields.get?

/-- The fields that the template asks for. -/
def extract (e : QueryElement) : Except ArityError Extraction := Extraction.ofText e.template

end QueryElement

end TwoWaySql

import TwoWaySql.Query.Basic
import TwoWaySql.Record.Basic
import TwoWaySql.Text.Quoted

/-!
# Generated code

A generated file is Rust source: a header, the names it imports, and for each record the
constant with its template, the struct, and what makes it usable as a query.
-/
namespace TwoWaySql

/-- How generated code refers to what is around it. -/
structure SourceOptions where
  /-- The path that the runtime names are imported from. -/
  runtime : Text
  /-- How placeholders are written. -/
  style : PlaceholderStyle
  /-- The path from the generated file to the templates, empty or with a slash at its end. -/
  templatePath : Text
deriving DecidableEq, Repr

namespace SourceOptions

/-- The options of a file next to its templates. -/
def initial : SourceOptions := ⟨"sqlgen_template", .question, []⟩

end SourceOptions

namespace FieldType

/-- The Rust type of a field. -/
def rustType : FieldType → Text
  | string => "String"
  | integer => "i64"
  | float => "f64"
  | boolean => "bool"
  | scalar => "Value"
  | list => "Vec<Value>"

end FieldType

namespace Source

/-- The first line of every generated file. -/
def header : Text := "// Code generated by sqlgen. DO NOT EDIT."

/-- The names that a generated file imports. -/
def imports (style : PlaceholderStyle) : List Text :=
  match style with
  | .question => ["QueryElem", "TemplateData", "Value"]
  | .dollar => ["PlaceholderStyle", "QueryElem", "TemplateData", "Value"]

/-- The line that imports the runtime names. -/
def importLine (options : SourceOptions) : Text :=
  "use " ++ options.runtime ++ "::" ++ ['{'] ++ Text.join ", " (imports options.style) ++ ['}', ';']

/-- The expression that makes a value of a field. -/
def valueExpression (f : RecordField) : Text :=
  match f.type with
  | .string => "Value::String(self." ++ f.ident ++ ".clone())"
  | .integer => "Value::Int(self." ++ f.ident ++ ")"
  | .float => "Value::Float(self." ++ f.ident ++ ")"
  | .boolean => "Value::Bool(self." ++ f.ident ++ ")"
  | .scalar => "self." ++ f.ident ++ ".clone()"
  | .list => "Value::List(self." ++ f.ident ++ ".clone())"

/-- The line that declares a field. -/
def fieldLine (f : RecordField) : Text :=
  "    pub " ++ f.ident ++ ": " ++ f.type.rustType ++ ","

/-- The line that looks a field up. -/
def lookupLine (f : RecordField) : Text :=
  "            " ++ f.name.quoted ++ " => Some(" ++ valueExpression f ++ "),"

/-- The line that opens an item or a block. -/
def opening (head : Text) : Text := head ++ [' ', '{']

/-- The line that closes an item. -/
def closing : Text := ['}']

/-- The line that closes a function. -/
def closingFunction : Text := "    " ++ closing

/-- The struct of a record. -/
def structLines (r : Record) : List Text :=
  let derives : Text := "#[derive(Debug, Clone, Default, PartialEq)]"
  match r.fields with
  | [] => [derives, "pub struct " ++ r.name ++ ";"]
  | fields =>
    [derives, opening ("pub struct " ++ r.name)] ++ fields.map fieldLine ++ [closing]

/-- The function that looks a field up by its name. -/
def lookupLines (r : Record) : List Text :=
  let start : List Text :=
    [opening "    fn field(&self, name: &str) -> Option<Value>", opening "        match name"]
  let ending : List Text := ["            _ => None,", "        " ++ closing, closingFunction]
  match r.fields with
  | [] => [opening "    fn field(&self, _name: &str) -> Option<Value>", "        None",
      closingFunction]
  | fields => start ++ fields.map lookupLine ++ ending

/-- The function that tells the style of the placeholders, where it is not the usual one. -/
def styleLines (style : PlaceholderStyle) : List Text :=
  match style with
  | .question => []
  | .dollar =>
    ["", opening "    fn placeholder_style(&self) -> PlaceholderStyle",
      "        PlaceholderStyle::Dollar", closingFunction]

/-- The lines that make a record usable as a query. -/
def queryLines (style : PlaceholderStyle) (r : Record) : List Text :=
  let start : List Text :=
    [opening ("impl QueryElem for " ++ r.name), opening "    fn sql_template(&self) -> &str",
      "        " ++ r.constName, closingFunction]
  start ++ styleLines style ++ [closing]

/-- The constant that holds the template of a record. -/
def constantLine (options : SourceOptions) (r : Record) : Text :=
  "const " ++ r.constName ++ ": &str = include_str!(" ++
    Text.quoted (options.templatePath ++ r.templateFile) ++ ");"

/-- The lines that are generated for a record. -/
def recordLines (options : SourceOptions) (r : Record) : List Text :=
  let dataLine : Text := opening ("impl TemplateData for " ++ r.name)
  [constantLine options r, []] ++ structLines r ++ [[], dataLine] ++ lookupLines r ++
    [closing, []] ++ queryLines options.style r

/-- The code that is generated for a record. -/
def ofRecord (options : SourceOptions) (r : Record) : Text := Text.lines (recordLines options r)

/-- The generated file for records. -/
def ofRecords (options : SourceOptions) (records : List Record) : Text :=
  Text.lines [header] ++
    match records with
    | [] => []
    | records =>
      Text.lines ["", importLine options] ++
        records.flatMap fun r => Text.lines [""] ++ ofRecord options r

end Source

end TwoWaySql

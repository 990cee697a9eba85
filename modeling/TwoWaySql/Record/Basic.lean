import TwoWaySql.Extraction
import TwoWaySql.Record.Naming

/-!
# Records

A record is the type that is generated for one template: a field for each name that the template
refers to, with one type and an identifier of its own.
-/
namespace TwoWaySql

/-- A field of a record. -/
structure RecordField where
  /-- The name that the template refers to. -/
  name : Text
  /-- The identifier in the generated code. -/
  ident : Text
  /-- The type that the directives ask for. -/
  type : FieldType
deriving DecidableEq, Repr

/-- The type that is generated for a template. -/
structure Record where
  /-- The name of the type. -/
  name : Text
  /-- The name of the template's file. -/
  templateFile : Text
  /-- The name of the constant that holds the template. -/
  constName : Text
  /-- The fields, in the order of their first references. -/
  fields : List RecordField
deriving DecidableEq, Repr

/-- Why a template has no record. -/
inductive RecordError where
  /-- The file name gives no type name. -/
  | invalidName (file : Text)
  /-- A directive of the template has the wrong number of arguments. -/
  | arity (file : Text) (error : ArityError)
  /-- A field is used with two types. -/
  | conflictingType (file name : Text) (first second : FieldType)
  /-- A field's name gives no identifier. -/
  | invalidFieldName (file name : Text)
  /-- Two fields have one identifier. -/
  | collision (file ident first second : Text)
deriving DecidableEq, Repr

namespace RecordError

/-- The file of the template. -/
def file : RecordError → Text
  | invalidName file => file
  | arity file _ => file
  | conflictingType file _ _ _ => file
  | invalidFieldName file _ => file
  | collision file _ _ _ => file

/-- What is wrong, without the file. -/
def cause : RecordError → Text
  | invalidName _ => "file name does not form a valid record name"
  | arity _ e => e.message
  | conflictingType _ name first second =>
    "field `" ++ name ++ "` is used as " ++ first.word ++ " and as " ++ second.word
  | invalidFieldName _ name => "field `" ++ name ++ "` cannot be used as a Rust identifier"
  | collision _ ident first second =>
    "fields `" ++ first ++ "` and `" ++ second ++ "` both map to `" ++ ident ++ "`"

/-- The wording for people. -/
def message (e : RecordError) : Text := e.file ++ ": " ++ e.cause

/-- The finding that an error about a whole file is. -/
def ofFile (e : RecordError) (code : DiagnosticCode) (comparison : Comparison) :
    Diagnostic :=
  ⟨code, .error, e.message, some (.inFile e.file), comparison⟩

/-- The error as a finding. -/
def toDiagnostic : RecordError → Diagnostic
  | arity file e => e.toDiagnostic file
  | e@(invalidName _) => e.ofFile .recordInvalidName .untold
  | e@(conflictingType _ _ first second) =>
    e.ofFile .fieldTypeConflict (.between first.word second.word)
  | e@(invalidFieldName ..) => e.ofFile .fieldInvalidName .untold
  | e@(collision ..) => e.ofFile .fieldInvalidName .untold

end RecordError

namespace Record

/-- The fields of a record after one more reference to a field. A repeated reference of the same
type adds nothing. -/
def addField (file : Text) (fields : List RecordField) (f : Field) :
    Except RecordError (List RecordField) :=
  match fields.find? (·.name = f.name) with
  | some first =>
    if first.type = f.type then .ok fields
    else .error (.conflictingType file f.name first.type f.type)
  | none =>
    match Naming.fieldIdentifier? f.name with
    | none => .error (.invalidFieldName file f.name)
    | some ident =>
      match fields.find? (·.ident = ident) with
      | some first => .error (.collision file ident first.name f.name)
      | none => .ok (fields ++ [⟨f.name, ident, f.type⟩])

/-- The record of a name with the fields that a template refers to. -/
def ofFields (name file : Text) (fields : List Field) : Except RecordError Record := do
  let fields ← fields.foldlM (addField file) []
  return ⟨name, file, Naming.constantName name, fields⟩

/-- The record of a template, and the directives that the catalog does not have. -/
def ofTemplate (file stem source suffix : Text) :
    Except RecordError (Record × List UnknownDirective) := do
  match Naming.recordName? stem suffix with
  | none => .error (.invalidName file)
  | some name =>
    match Extraction.ofText source with
    | .error e => .error (.arity file e)
    | .ok extraction =>
      let record ← ofFields name file extraction.fields
      return (record, extraction.unknown)

/-- The fields of the record, each with its type. -/
def fieldSummaries (r : Record) : List Text := r.fields.map fun f => f.name ++ ": " ++ f.type.word

end Record

end TwoWaySql

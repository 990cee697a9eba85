import TwoWaySql.Position

/-!
# Diagnostics

A diagnostic says what is wrong, how grave it is and where. Its code and severity are stable
words that other programs may rely on; the message is for people.
-/
namespace TwoWaySql

/-- What a diagnostic is about. -/
inductive DiagnosticCode where
  /-- A directive whose keyword is not in the catalog. -/
  | directiveUnknown
  /-- A directive with the wrong number of arguments. -/
  | directiveArity
  /-- A literal behind a directive that was left in the text. -/
  | dummyNotStripped
  /-- A field that is used with two types. -/
  | fieldTypeConflict
  /-- A field name without an identifier of its own. -/
  | fieldInvalidName
  /-- A template whose file name gives no record name. -/
  | recordInvalidName
  /-- Two templates with one record name. -/
  | recordDuplicateName
  /-- A reference to a field that the data does not have. -/
  | templateUnresolvedField
  /-- A value of the wrong type for its directive. -/
  | templateTypeMismatch
  /-- A block that is not closed or not opened. -/
  | templateUnbalancedBlock
  /-- A template that cannot be read. -/
  | templateMalformed
  /-- A file that cannot be read or written. -/
  | ioError
  /-- An output file that differs from what is generated. -/
  | outputOutOfDate
  /-- Any other information. -/
  | info
  /-- Any other warning. -/
  | warning
deriving DecidableEq, Repr

namespace DiagnosticCode

/-- All codes. -/
def all : List DiagnosticCode :=
  [directiveUnknown, directiveArity, dummyNotStripped, fieldTypeConflict, fieldInvalidName,
    recordInvalidName, recordDuplicateName, templateUnresolvedField, templateTypeMismatch,
    templateUnbalancedBlock, templateMalformed, ioError, outputOutOfDate, info, warning]

/-- The stable word for a code. -/
def word : DiagnosticCode → Text
  | directiveUnknown => "DIRECTIVE_UNKNOWN"
  | directiveArity => "DIRECTIVE_ARITY"
  | dummyNotStripped => "DUMMY_NOT_STRIPPED"
  | fieldTypeConflict => "FIELD_TYPE_CONFLICT"
  | fieldInvalidName => "FIELD_INVALID_NAME"
  | recordInvalidName => "RECORD_INVALID_NAME"
  | recordDuplicateName => "RECORD_DUPLICATE_NAME"
  | templateUnresolvedField => "TEMPLATE_UNRESOLVED_FIELD"
  | templateTypeMismatch => "TEMPLATE_TYPE_MISMATCH"
  | templateUnbalancedBlock => "TEMPLATE_UNBALANCED_BLOCK"
  | templateMalformed => "TEMPLATE_MALFORMED"
  | ioError => "IO_ERROR"
  | outputOutOfDate => "OUTPUT_OUT_OF_DATE"
  | info => "INFO"
  | warning => "WARNING"

/-- The code that a stable word stands for. -/
def ofWord? (word : Text) : Option DiagnosticCode := all.find? (·.word = word)

end DiagnosticCode

/-- How grave a diagnostic is. -/
inductive Severity where
  /-- For information only. -/
  | info
  /-- To be looked at; generation goes on. -/
  | warn
  /-- Generation fails. -/
  | error
deriving DecidableEq, Repr

namespace Severity

/-- The stable word for a severity. -/
def word : Severity → Text
  | info => "info"
  | warn => "warn"
  | error => "error"

/-- The severity that a stable word stands for. -/
def ofWord? (word : Text) : Option Severity := [info, warn, error].find? (·.word = word)

end Severity

/-- A place in a file, as closely as it is known. -/
structure Location where
  /-- The path of the file. -/
  file : Text
  /-- The line, if it is known. -/
  line : Option Nat
  /-- The column, if it is known. -/
  column : Option Nat
deriving DecidableEq, Repr

namespace Location

/-- Somewhere in a file. -/
def inFile (file : Text) : Location := ⟨file, none, none⟩

/-- Somewhere in a line. -/
def onLine (file : Text) (line : Nat) : Location := ⟨file, some line, none⟩

/-- A line and a column. -/
def onColumn (file : Text) (line column : Nat) : Location := ⟨file, some line, some column⟩

/-- A place in the text of a file. -/
def atPosition (file : Text) (p : Position) : Location := onColumn file p.line p.column

/-- The file, the line and the column with colons between them. A column says nothing without its
line. -/
def describe (l : Location) : Text :=
  match l.line, l.column with
  | none, _ => l.file
  | some line, none => l.file ++ ":" ++ Text.ofNat line
  | some line, some column => l.file ++ ":" ++ Text.ofNat line ++ ":" ++ Text.ofNat column

end Location

/-- What was expected and what was found in its place, each if it is told. -/
structure Comparison where
  /-- What should have been there. -/
  expected : Option Text
  /-- What was there. -/
  actual : Option Text
deriving DecidableEq, Repr

namespace Comparison

/-- Nothing is told. -/
def untold : Comparison := ⟨none, none⟩

/-- What was expected and what was found. -/
def between (expected actual : Text) : Comparison := ⟨some expected, some actual⟩

end Comparison

/-- A finding about a template, a record or a file. -/
structure Diagnostic where
  /-- What it is about. -/
  code : DiagnosticCode
  /-- How grave it is. -/
  severity : Severity
  /-- The wording for people. -/
  message : Text
  /-- Where it is. -/
  location : Option Location
  /-- What was expected and what was found. -/
  comparison : Comparison
deriving DecidableEq, Repr

namespace Diagnostic

/-- Whether generation fails because of it. -/
def isError (d : Diagnostic) : Bool := d.severity == .error

end Diagnostic

end TwoWaySql

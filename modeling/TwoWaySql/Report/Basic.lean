import TwoWaySql.Diagnostic

/-!
# Reports

A report lists the records and the findings of a generation and keeps count of them as they are
added. The number of templates is set from outside.
-/
namespace TwoWaySql

/-- The version of the form in which a report is stored. -/
structure ReportVersion where
  /-- Raised when older readers would fail. -/
  major : UInt32
  /-- Raised when something is added. -/
  minor : UInt32
deriving DecidableEq, Repr

namespace ReportVersion

/-- The version in use. -/
def current : ReportVersion := ⟨1, 0⟩

/-- The version as it is shown. -/
def describe (v : ReportVersion) : Text :=
  Text.ofNat v.major.toNat ++ "." ++ Text.ofNat v.minor.toNat

end ReportVersion

/-- A generated record in a report. -/
structure RecordSummary where
  /-- The name of the record. -/
  name : Text
  /-- The name of its template's file. -/
  template : Text
  /-- The fields, each with its type. -/
  fields : List Text
deriving DecidableEq, Repr

/-- The counts of a report. -/
structure Summary where
  /-- The number of findings. -/
  total : Nat
  /-- The number of errors among them. -/
  errors : Nat
  /-- The number of warnings among them. -/
  warnings : Nat
  /-- The number of the others. -/
  info : Nat
  /-- The number of templates. -/
  templates : Nat
  /-- The number of records. -/
  records : Nat
  /-- The number of fields of all records. -/
  fields : Nat
deriving DecidableEq, Repr

/-- The counts of an empty report. -/
def Summary.zero : Summary := ⟨0, 0, 0, 0, 0, 0, 0⟩

/-- The findings and the records of a generation. -/
structure Report where
  /-- The version of its stored form. -/
  version : ReportVersion
  /-- The counts. -/
  summary : Summary
  /-- The records, in the order in which they were added. -/
  records : List RecordSummary
  /-- The findings, in the order in which they were added. -/
  diagnostics : List Diagnostic
deriving DecidableEq, Repr

namespace Report

/-- No findings and no records. -/
def empty : Report := ⟨.current, .zero, [], []⟩

/-- The counts after one more finding of a severity. -/
def countDiagnostic (s : Summary) : Severity → Summary
  | .error => { s with total := s.total + 1, errors := s.errors + 1 }
  | .warn => { s with total := s.total + 1, warnings := s.warnings + 1 }
  | .info => { s with total := s.total + 1, info := s.info + 1 }

/-- The report with one more finding. -/
def addDiagnostic (r : Report) (d : Diagnostic) : Report :=
  { r with summary := countDiagnostic r.summary d.severity, diagnostics := r.diagnostics ++ [d] }

/-- The report with one more record. -/
def addRecord (r : Report) (record : RecordSummary) : Report :=
  { r with
    summary := { r.summary with
      records := r.summary.records + 1, fields := r.summary.fields + record.fields.length },
    records := r.records ++ [record] }

/-- The report with the number of templates set. -/
def setTemplates (r : Report) (n : Nat) : Report :=
  { r with summary := { r.summary with templates := n } }

/-- The report of a list of findings. -/
def ofDiagnostics (ds : List Diagnostic) : Report := ds.foldl addDiagnostic empty

/-- Whether an error was found. -/
def hasErrors (r : Report) : Bool := 0 < r.summary.errors

end Report

end TwoWaySql

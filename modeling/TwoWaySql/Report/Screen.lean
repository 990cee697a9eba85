import TwoWaySql.Report.Basic

/-!
# Reports on the screen

The shown form of a report: the counts, the records with their fields, and the findings.
-/
namespace TwoWaySql

namespace Severity

/-- The word for a severity on the screen. -/
def label : Severity → Text
  | info => "INFO"
  | warn => "WARN"
  | error => "ERROR"

end Severity

namespace Diagnostic

/-- The lines that show a finding. -/
def screenLines (d : Diagnostic) : List Text :=
  let first : Text := "  [" ++ d.severity.label ++ "] " ++ d.code.word ++ ": " ++ d.message
  let place : List Text := d.location.toList.map fun l => "    at " ++ l.describe
  let expected : List Text := d.comparison.expected.toList.map fun t => "    Expected: " ++ t
  let actual : List Text := d.comparison.actual.toList.map fun t => "    Actual:   " ++ t
  first :: place ++ expected ++ actual

end Diagnostic

namespace RecordSummary

/-- The lines that show a record. -/
def screenLines (r : RecordSummary) : List Text :=
  let first : Text := "  " ++ r.name ++ " (" ++ r.template ++ ")"
  first :: r.fields.map fun f => "    " ++ f

end RecordSummary

namespace Report

/-- The line above and below the title. -/
def rule : Text := List.replicate 60 '='

/-- The lines of the title and the counts. -/
def headLines (s : Summary) : List Text :=
  [[], rule, "sqlgen Report", rule, [], "Summary:", "  Templates: " ++ Text.ofNat s.templates,
    "  Records:   " ++ Text.ofNat s.records, "  Fields:    " ++ Text.ofNat s.fields,
    "  Errors:    " ++ Text.ofNat s.errors, "  Warnings:  " ++ Text.ofNat s.warnings, []]

/-- The lines of the records. -/
def recordLines (records : List RecordSummary) : List Text :=
  let title : Text := "Records:"
  if records.isEmpty then [] else title :: records.flatMap RecordSummary.screenLines ++ [[]]

/-- The lines of the findings. -/
def diagnosticLines (diagnostics : List Diagnostic) : List Text :=
  let title : Text := "Diagnostics:"
  if diagnostics.isEmpty then ["✓ No issues found!"]
  else title :: diagnostics.flatMap Diagnostic.screenLines

/-- The report as it is shown. -/
def shown (r : Report) : Text :=
  Text.lines (headLines r.summary ++ recordLines r.records ++ diagnosticLines r.diagnostics)

end Report

end TwoWaySql

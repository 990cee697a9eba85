import TwoWaySql.Json.Reader
import TwoWaySql.Json.Writer
import TwoWaySql.Report.Basic

/-!
# Reports as documents

The stored form of a report. Its members and their order are fixed, and the version tells
readers which form it is. A reader takes the members in any order, and each structure also as the
list of its parts.
-/
namespace TwoWaySql

namespace Json

/-- An object with the given members. -/
def ofMembers (members : List (String × Json)) : Json :=
  object (members.map fun (name, value) => (name.toList, value))

end Json

namespace Location

/-- The stored form of a place. -/
def toJson (l : Location) : Json :=
  .ofMembers [("file", .string l.file), ("line", .ofNat? l.line), ("column", .ofNat? l.column)]

end Location

namespace Diagnostic

/-- The stored form of a finding. -/
def toJson (d : Diagnostic) : Json :=
  .ofMembers [("code", .string d.code.word), ("severity", .string d.severity.word),
    ("message", .string d.message), ("location", (d.location.map Location.toJson).getD .null),
    ("expected", .ofText? d.comparison.expected), ("actual", .ofText? d.comparison.actual)]

end Diagnostic

namespace RecordSummary

/-- The stored form of a record. -/
def toJson (r : RecordSummary) : Json :=
  .ofMembers [("name", .string r.name), ("template", .string r.template),
    ("fields", .array (r.fields.map .string))]

end RecordSummary

namespace Summary

/-- The stored form of the counts. -/
def toJson (s : Summary) : Json :=
  .ofMembers [("total", .ofNat s.total), ("errors", .ofNat s.errors),
    ("warnings", .ofNat s.warnings), ("info", .ofNat s.info), ("templates", .ofNat s.templates),
    ("records", .ofNat s.records), ("fields", .ofNat s.fields)]

end Summary

namespace ReportVersion

/-- The stored form of a version. -/
def toJson (v : ReportVersion) : Json :=
  .ofMembers [("major", .ofNat v.major.toNat), ("minor", .ofNat v.minor.toNat)]

end ReportVersion

namespace Report

/-- The stored form of a report that was made at a time. -/
def toJson (timestamp : Text) (r : Report) : Json :=
  .ofMembers [("version", r.version.toJson), ("timestamp", .string timestamp),
    ("summary", r.summary.toJson), ("records", .array (r.records.map RecordSummary.toJson)),
    ("diagnostics", .array (r.diagnostics.map Diagnostic.toJson))]

/-- The text of the stored form. -/
def stored (timestamp : Text) (r : Report) : Text := (r.toJson timestamp).pretty

end Report

/-! ## Reading -/

namespace Json

/-- The parts of a stored structure: the members of an object, as far as they are there, or the
items of a list that has all of them in order. Other members are passed over. -/
def parts? (names : List Text) : Json → Option (List (Option Json))
  | object members => some (names.map fun name => (object members).member? name)
  | array items => if items.length = names.length then some (items.map some) else none
  | _ => none

/-- A part that may be absent or `null`. -/
def optional? {α : Type} (read : Json → Option α) : Option Json → Option (Option α)
  | none => some none
  | some null => some none
  | some json => (read json).map some

/-- The documents of a list. -/
def asItems? : Json → Option (List Json)
  | array items => some items
  | _ => none

/-- The number of an unsigned 32-bit word. -/
def asWord32? (json : Json) : Option UInt32 := do
  let n ← json.asNat?
  if n < UInt32.size then some (UInt32.ofNat n) else none

/-- A stable word: a string, or an object with the word as its one name and `null` as its value. -/
def asChoice? : Json → Option Text
  | string t => some t
  | object [(name, null)] => some name
  | _ => none

end Json

/-- Reads a version. -/
def ReportVersion.ofJson? (json : Json) : Option ReportVersion := do
  let [major, minor] ← json.parts? ["major", "minor"] | none
  some ⟨← major.bind Json.asWord32?, ← minor.bind Json.asWord32?⟩

/-- Reads the counts. -/
def Summary.ofJson? (json : Json) : Option Summary := do
  let parts ←
    json.parts? ["total", "errors", "warnings", "info", "templates", "records", "fields"]
  let [total, errors, warnings, info, templates, records, fields] ←
    parts.mapM fun part => part.bind Json.asNat?
    | none
  some ⟨total, errors, warnings, info, templates, records, fields⟩

/-- Reads a record. -/
def RecordSummary.ofJson? (json : Json) : Option RecordSummary := do
  let [name, template, fields] ← json.parts? ["name", "template", "fields"] | none
  let fields ← fields.bind Json.asItems?
  some ⟨← name.bind Json.asText?, ← template.bind Json.asText?, ← fields.mapM Json.asText?⟩

/-- Reads a place. -/
def Location.ofJson? (json : Json) : Option Location := do
  let [file, line, column] ← json.parts? ["file", "line", "column"] | none
  some ⟨← file.bind Json.asText?, ← Json.optional? Json.asNat? line,
    ← Json.optional? Json.asNat? column⟩

/-- Reads a finding. -/
def Diagnostic.ofJson? (json : Json) : Option Diagnostic := do
  let [code, severity, message, location, expected, actual] ←
    json.parts? ["code", "severity", "message", "location", "expected", "actual"]
    | none
  let code ← code.bind Json.asChoice?
  let severity ← severity.bind Json.asChoice?
  let comparison : Comparison :=
    ⟨← Json.optional? Json.asText? expected, ← Json.optional? Json.asText? actual⟩
  some ⟨← DiagnosticCode.ofWord? code, ← Severity.ofWord? severity, ← message.bind Json.asText?,
    ← Json.optional? Location.ofJson? location, comparison⟩

namespace Report

/-- Reads a report and when it was made. -/
def ofJson? (json : Json) : Option (Text × Report) := do
  let [version, timestamp, summary, records, diagnostics] ←
    json.parts? ["version", "timestamp", "summary", "records", "diagnostics"]
    | none
  let timestamp ← timestamp.bind Json.asText?
  let version ← version.bind ReportVersion.ofJson?
  let summary ← summary.bind Summary.ofJson?
  let records ← (← records.bind Json.asItems?).mapM RecordSummary.ofJson?
  let diagnostics ← (← diagnostics.bind Json.asItems?).mapM Diagnostic.ofJson?
  some (timestamp, ⟨version, summary, records, diagnostics⟩)

/-- Reads the text of a stored form. What is passed over need not have a value. -/
def read? (t : Text) : Option (Text × Report) := (Json.readWith? .void t).bind ofJson?

end Report

end TwoWaySql

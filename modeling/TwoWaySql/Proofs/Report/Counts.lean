import Mathlib.Algebra.GroupWithZero.Nat
import TwoWaySql.Report.Basic

/-!
# The counts of a report

A report counts as it goes along: each addition changes the counts and one of the lists. The counts
are those of the lists at the start, one addition keeps them so, and so does every sequence of
additions.

## Main definitions

* `Report.Counts` — the counts of a report are those of its lists.
* `Report.Addition` — a finding or a record that is added.
-/
namespace TwoWaySql.Report

/-- Whether the counts of a report are those of its lists. -/
structure Counts (r : Report) : Prop where
  /-- Each finding is counted. -/
  total : r.summary.total = r.diagnostics.length
  /-- Each error is counted as one. -/
  errors : r.summary.errors = r.diagnostics.countP (·.severity = .error)
  /-- Each warning is counted as one. -/
  warnings : r.summary.warnings = r.diagnostics.countP (·.severity = .warn)
  /-- Each other finding is counted as one of these. -/
  info : r.summary.info = r.diagnostics.countP (·.severity = .info)
  /-- Each record is counted. -/
  records : r.summary.records = r.records.length
  /-- Each field of a record is counted. -/
  fields : r.summary.fields = (r.records.map (·.fields.length)).sum

/-- What is added to a report. -/
inductive Addition where
  /-- A finding. -/
  | diagnostic (d : Diagnostic)
  /-- A record. -/
  | record (summary : RecordSummary)

namespace Addition

/-- The finding that is added, if it is one. -/
def diagnostic? : Addition → Option Diagnostic
  | diagnostic d => some d
  | record _ => none

/-- The record that is added, if it is one. -/
def record? : Addition → Option RecordSummary
  | diagnostic _ => none
  | record summary => some summary

end Addition

/-- The report after an addition. -/
def add (r : Report) : Addition → Report
  | .diagnostic d => r.addDiagnostic d
  | .record summary => r.addRecord summary

variable {r : Report}

/-! ## One addition -/

theorem Counts.addDiagnostic (h : r.Counts) (d : Diagnostic) : (r.addDiagnostic d).Counts := by
  obtain ⟨htotal, herrors, hwarnings, hinfo, hrecords, hfields⟩ := h
  cases hseverity : d.severity <;> constructor <;>
    simp [Report.addDiagnostic, countDiagnostic, hseverity, htotal, herrors, hwarnings, hinfo,
      hrecords, hfields]

theorem Counts.addRecord (h : r.Counts) (summary : RecordSummary) :
    (r.addRecord summary).Counts where
  total := h.total
  errors := h.errors
  warnings := h.warnings
  info := h.info
  records := by simp [Report.addRecord, h.records]
  fields := by simp [Report.addRecord, h.fields]

theorem Counts.setTemplates (h : r.Counts) (n : Nat) : (r.setTemplates n).Counts :=
  ⟨h.total, h.errors, h.warnings, h.info, h.records, h.fields⟩

theorem counts_empty : empty.Counts := ⟨rfl, rfl, rfl, rfl, rfl, rfl⟩

theorem Counts.add (h : r.Counts) (a : Addition) : (r.add a).Counts := by
  cases a with
  | diagnostic d => exact h.addDiagnostic d
  | record summary => exact h.addRecord summary

/-! ## A run of additions -/

/-- A run of additions keeps the counts to the lists. -/
theorem Counts.run (h : r.Counts) (additions : List Addition) :
    (additions.foldl Report.add r).Counts := by
  induction additions generalizing r with
  | nil => exact h
  | cons a additions ih => exact ih (h.add a)

/-- A run of additions puts what is added behind what there is, and changes nothing else. -/
theorem lists_run (r : Report) (additions : List Addition) :
    (additions.foldl add r).diagnostics =
      r.diagnostics ++ additions.filterMap Addition.diagnostic? ∧
    (additions.foldl add r).records = r.records ++ additions.filterMap Addition.record? ∧
    (additions.foldl add r).summary.templates = r.summary.templates ∧
    (additions.foldl add r).version = r.version := by
  induction additions generalizing r with
  | nil => simp
  | cons a additions ih =>
      obtain ⟨hdiagnostics, hrecords, htemplates, hversion⟩ := ih (r.add a)
      rw [List.foldl_cons, hdiagnostics, hrecords, htemplates, hversion]
      cases a with
      | diagnostic d =>
          have hkept : (countDiagnostic r.summary d.severity).templates = r.summary.templates := by
            cases d.severity <;> rfl
          simp [add, Report.addDiagnostic, List.filterMap_cons, Addition.diagnostic?,
            Addition.record?, hkept]
      | record summary =>
          simp [add, Report.addRecord, List.filterMap_cons, Addition.diagnostic?,
            Addition.record?]

/-- A report of findings is a run of additions. -/
theorem ofDiagnostics_eq_run (ds : List Diagnostic) :
    ofDiagnostics ds = (ds.map .diagnostic).foldl add empty := by
  rw [ofDiagnostics, List.foldl_map]
  rfl

/-- A report of findings lists these and no records. -/
theorem lists_ofDiagnostics (ds : List Diagnostic) :
    (ofDiagnostics ds).diagnostics = ds ∧ (ofDiagnostics ds).records = [] := by
  obtain ⟨hdiagnostics, hrecords, -, -⟩ := lists_run empty (ds.map .diagnostic)
  rw [ofDiagnostics_eq_run, hdiagnostics, hrecords, List.filterMap_map, List.filterMap_map]
  exact ⟨List.filterMap_some, List.filterMap_eq_nil_iff.2 fun _ _ => rfl⟩

/-! ## The summary -/

/-- Findings of one severity count for that severity alone. -/
theorem countP_severity {ds : List Diagnostic} {s s' : Severity} (h : ∀ d ∈ ds, d.severity = s) :
    ds.countP (·.severity = s') = if s = s' then ds.length else 0 := by
  by_cases hs : s = s'
  · rw [if_pos hs, List.countP_eq_length]
    intro d hd
    simp [h d hd, hs]
  · rw [if_neg hs, List.countP_eq_zero]
    intro d hd
    simp [h d hd, hs]

/-- The summary of a report with nothing but warnings follows from its lists. -/
theorem Counts.summary_eq (h : r.Counts) (hwarn : ∀ d ∈ r.diagnostics, d.severity = .warn) :
    r.summary = {
      total := r.diagnostics.length
      errors := 0
      warnings := r.diagnostics.length
      info := 0
      templates := r.summary.templates
      records := r.records.length
      fields := (r.records.map (·.fields.length)).sum } := by
  have herrors : r.summary.errors = 0 := by
    rw [h.errors, countP_severity hwarn, if_neg (by decide)]
  have hwarnings : r.summary.warnings = r.diagnostics.length := by
    rw [h.warnings, countP_severity hwarn, if_pos rfl]
  have hinfo : r.summary.info = 0 := by
    rw [h.info, countP_severity hwarn, if_neg (by decide)]
  calc r.summary
    _ = ⟨r.summary.total, r.summary.errors, r.summary.warnings, r.summary.info,
          r.summary.templates, r.summary.records, r.summary.fields⟩ := rfl
    _ = _ := by rw [h.total, herrors, hwarnings, hinfo, h.records, h.fields]

end TwoWaySql.Report

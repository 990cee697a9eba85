import TwoWaySql.Proofs.Generation.Records

/-!
# What a generation reports

A generation that fails is reported as one error. One that goes through has warnings to report at
most: whatever is found in a template that gives its record is to be looked at, and no more.
-/
namespace TwoWaySql

/-- What makes a generation fail is found to be an error. -/
theorem GenerationError.severity_toDiagnostic (e : GenerationError) :
    e.toDiagnostic.severity = .error := by
  cases e with
  | record e => cases e <;> rfl
  | _ => rfl

namespace Report

variable {r : Report} {d : Diagnostic}

/-- A report with one more error has errors. -/
theorem hasErrors_addDiagnostic (h : d.severity = .error) :
    (r.addDiagnostic d).hasErrors = true := by
  simp [hasErrors, addDiagnostic, h, countDiagnostic]

/-- Any other finding leaves a report with errors or without. -/
theorem hasErrors_addDiagnostic_of_ne (h : d.severity ≠ .error) :
    (r.addDiagnostic d).hasErrors = r.hasErrors := by
  rw [hasErrors, addDiagnostic]
  cases hseverity : d.severity with
  | error => exact absurd hseverity h
  | warn => rfl
  | info => rfl

theorem hasErrors_ofDiagnostics {ds : List Diagnostic} (h : ∀ d ∈ ds, d.severity ≠ .error) :
    (ofDiagnostics ds).hasErrors = false := by
  have hfold : ∀ r : Report, (ds.foldl addDiagnostic r).hasErrors = r.hasErrors := by
    induction ds with
    | nil => exact fun _ => rfl
    | cons d ds ih =>
        intro r
        have hrest := ih fun d' hd' => h d' (List.mem_cons_of_mem d hd')
        rw [List.foldl_cons, hrest, hasErrors_addDiagnostic_of_ne (h d List.mem_cons_self)]
  exact hfold empty

end Report

/-- The errors of a generation's report are among its findings. -/
theorem Generation.hasErrors_report {g : Generation}
    (h : ∀ d ∈ g.diagnostics, d.severity ≠ .error) : g.report.hasErrors = false := by
  have hfold : ∀ (rs : List Record) (report : Report), (rs.foldl (fun report r =>
      report.addRecord ⟨r.name, r.templateFile, r.fieldSummaries⟩) report).hasErrors =
        report.hasErrors := by
    intro rs
    induction rs with
    | nil => exact fun _ => rfl
    | cons r rs ih => exact fun report => ih _
  rw [report, hfold]
  exact Report.hasErrors_ofDiagnostics h

namespace Generator

variable {g : Generator} {tree : Tree} {t : Text × Content} {r : Record} {found : List Diagnostic}
  {generation : Generation}

/-- What is found in a template beside its record is no error. -/
theorem severity_of_ofTemplate (h : g.ofTemplate t.1 t.2 = .ok (r, found)) :
    ∀ d ∈ found, d.severity ≠ .error := by
  obtain ⟨name, source | bytes⟩ := t
  · simp only [ofTemplate] at h
    split at h
    · cases h
    · cases h
      intro d hd
      rcases List.mem_append.1 hd with hunknown | hleft
      · obtain ⟨u, -, rfl⟩ := List.mem_map.1 hunknown
        simp [UnknownDirective.toDiagnostic]
      · obtain ⟨u, -, rfl⟩ := List.mem_map.1 hleft
        simp [Unstripped.toDiagnostic]
  · cases h

/-- What a generation finds is no error. -/
theorem severity_of_generate (h : g.generate tree = .ok generation) :
    ∀ d ∈ generation.diagnostics, d.severity ≠ .error := by
  obtain ⟨ts, rs, ds, -, hrun, rfl⟩ := generate_eq_ok_iff.1 h
  refine Outcome.invariant_of_foldlM
    (P := fun sofar : List Record × List Diagnostic => ∀ d ∈ sofar.2, d.severity ≠ .error)
    ?_ (fun d hd => absurd hd List.not_mem_nil) hrun
  intro sofar t next hsofar hadd
  obtain ⟨⟨r, found⟩, hrecord, hnext⟩ := Outcome.bind_eq_ok.1 hadd
  dsimp only at hnext
  split at hnext
  · cases hnext
  · cases hnext
    intro d hd
    rcases List.mem_append.1 hd with hmem | hmem
    · exact hsofar d hmem
    · exact severity_of_ofTemplate hrecord d hmem

/-- The report of a generation that goes through has no errors. -/
theorem hasErrors_report_of_generate (h : g.generate tree = .ok generation) :
    generation.report.hasErrors = false :=
  Generation.hasErrors_report (severity_of_generate h)

end Generator

end TwoWaySql

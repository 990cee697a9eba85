import Mathlib.Data.Finset.Card
import Mathlib.Data.Finset.Dedup
import TwoWaySql.Proofs.Dummy.Report
import TwoWaySql.Proofs.Generation.Records
import TwoWaySql.Proofs.Record.Gathering
import TwoWaySql.Proofs.Report.Counts

/-!
# The report counts what was generated

A generation that goes through has read each template, and its report can be told from what was
read: which directives of a template are unknown, which literals stay in it, and which field names
it refers to. The findings stand file by file in the order of the names, the unknown directives of a
file before its literals, both in the order of the source. The counts are those of the lists, also
after any additions.

## Main definitions

* `Generator.Reading` — a template that was read, with what it asks for.
* `Generator.Reading.findings` — what is reported of it.
-/
namespace TwoWaySql

/-! ## What is asked for -/

/-- The unknown directives of a template are those whose keyword the catalog does not have. -/
theorem Extraction.unknown_of_ofDirectives {ds : List Directive} {e : Extraction}
    (h : ofDirectives ds = .ok e) :
    e.unknown = (ds.filter (·.keyword? = none)).map fun d => ⟨d.name, d.position⟩ := by
  induction ds generalizing e with
  | nil =>
      cases h
      rfl
  | cons d ds ih =>
      rw [ofDirectives] at h
      obtain ⟨fields, hfields, h⟩ := Outcome.bind_eq_ok.1 h
      obtain ⟨rest, hrest, h⟩ := Outcome.bind_eq_ok.1 h
      cases h
      rw [add]
      cases hkeyword : d.keyword? with
      | none => simp [hkeyword, ih hrest]
      | some k => simp [hkeyword, ih hrest]

namespace Record

/-- There is one first occurrence for each name. -/
theorem length_firsts (fs : List Field) :
    (firsts fs).length = (fs.map (·.name)).toFinset.card := by
  induction fs using List.reverseRecOn with
  | nil => rfl
  | append_singleton fs f ih =>
      rw [firsts_append_singleton, List.map_append, List.toFinset_append, List.map_singleton,
        List.toFinset_cons, List.toFinset_nil, insert_empty_eq, Finset.union_comm,
        ← Finset.insert_eq]
      by_cases hmem : f.name ∈ fs.map (·.name)
      · rw [if_pos hmem, ih, Finset.insert_eq_of_mem (List.mem_toFinset.2 hmem)]
      · rw [if_neg hmem, List.length_append, ih,
          Finset.card_insert_of_notMem (mt List.mem_toFinset.1 hmem), List.length_singleton]

end Record

namespace Generator

/-- A template that was read, with what it asks for. -/
structure Reading where
  /-- The name of the file. -/
  name : Text
  /-- The template. -/
  source : Text
  /-- What the template asks for. -/
  extraction : Extraction
  /-- It is what is extracted from the template. -/
  extracted : Extraction.ofText source = .ok extraction

namespace Reading

/-- The file of the template. -/
def file (r : Reading) : Text × Content := (r.name, .text r.source)

/-- The directives of the template that the catalog does not have. -/
def unknown (r : Reading) : List Directive :=
  (Directive.all r.source).filter (·.keyword? = none)

/-- What is reported of the template: the unknown directives, if they are to be reported, and then
the literals that stay. -/
def findings (warnsUnknown : Bool) (r : Reading) : List Diagnostic :=
  (if warnsUnknown then
    r.unknown.map fun d => UnknownDirective.toDiagnostic ⟨d.name, d.position⟩ r.name else []) ++
  (unstripped r.source).map (·.toDiagnostic r.name)

/-- How much is reported of the template. -/
def findingCount (warnsUnknown : Bool) (r : Reading) : Nat :=
  (if warnsUnknown then r.unknown.length else 0) + (unstripped r.source).length

/-- How many names of fields the template refers to. -/
def fieldCount (r : Reading) : Nat := (r.extraction.fields.map (·.name)).toFinset.card

theorem length_findings (warnsUnknown : Bool) (r : Reading) :
    (r.findings warnsUnknown).length = r.findingCount warnsUnknown := by
  cases warnsUnknown <;> simp [findings, findingCount]

theorem severity_of_mem_findings {warnsUnknown : Bool} {r : Reading} {d : Diagnostic}
    (h : d ∈ r.findings warnsUnknown) : d.severity = .warn := by
  rcases List.mem_append.1 h with hunknown | hstays
  · cases warnsUnknown with
    | false => cases hunknown
    | true =>
        obtain ⟨u, -, rfl⟩ := List.mem_map.1 hunknown
        rfl
  · obtain ⟨u, -, rfl⟩ := List.mem_map.1 hstays
    rfl

end Reading

variable {g : Generator} {tree : Tree} {t : Text × Content} {ts : List (Text × Content)}
  {r : Record} {rs rs' : List Record} {ds ds' : List Diagnostic} {generation : Generation}

/-! ## The run over the templates -/

/-- What is found in a template that gives a record is what is reported of it. -/
theorem exists_reading_of_ofTemplate {found : List Diagnostic}
    (h : g.ofTemplate t.1 t.2 = .ok (r, found)) :
    ∃ reading : Reading, t = reading.file ∧ found = reading.findings g.config.warnsUnknown ∧
      r.fields.length = reading.fieldCount := by
  obtain ⟨name, source | bytes⟩ := t
  · simp only [ofTemplate] at h
    split at h
    · cases h
    · next record unknown hrecord =>
      cases h
      obtain ⟨-, -, -, extraction, hextraction, hfields, rfl⟩ :=
        Record.ofTemplate_eq_ok_iff.1 hrecord
      refine ⟨⟨name, source, extraction, hextraction⟩, rfl, ?_, ?_⟩
      · rw [Reading.findings, Reading.unknown, Extraction.unknown_of_ofDirectives hextraction]
        cases g.config.warnsUnknown <;> simp
      · rw [Reading.fieldCount, ← Record.length_firsts]
        exact (Record.gathers_of_foldlM hfields).represents.length_eq.symm
  · cases h

/-- The step of the run has read its template. -/
theorem exists_reading_of_add (h : g.add (rs, ds) t = .ok (rs', ds')) :
    ∃ (reading : Reading) (r : Record), t = reading.file ∧ rs' = rs ++ [r] ∧
      ds' = ds ++ reading.findings g.config.warnsUnknown ∧
      r.fields.length = reading.fieldCount := by
  obtain ⟨⟨r, found⟩, hrecord, hadd⟩ := Outcome.bind_eq_ok.1 h
  obtain ⟨reading, ht, rfl, hfields⟩ := exists_reading_of_ofTemplate hrecord
  dsimp only at hadd
  split at hadd
  · cases hadd
  · cases hadd
    exact ⟨reading, r, ht, rfl, rfl, hfields⟩

/-- The run has read each of its templates. -/
theorem exists_readings_of_foldlM (h : ts.foldlM g.add (rs, ds) = .ok (rs', ds')) :
    ∃ (readings : List Reading) (more : List Record), ts = readings.map (·.file) ∧
      rs' = rs ++ more ∧ ds' = ds ++ readings.flatMap (·.findings g.config.warnsUnknown) ∧
      more.map (·.fields.length) = readings.map (·.fieldCount) := by
  induction ts generalizing rs ds with
  | nil =>
      cases h
      exact ⟨[], [], rfl, by simp, by simp, rfl⟩
  | cons t ts ih =>
      rw [List.foldlM_cons] at h
      obtain ⟨⟨rs₁, ds₁⟩, hadd, hrest⟩ := Outcome.bind_eq_ok.1 h
      obtain ⟨reading, r, rfl, rfl, rfl, hfields⟩ := exists_reading_of_add hadd
      obtain ⟨readings, more, rfl, rfl, rfl, hcounts⟩ := ih hrest
      exact ⟨reading :: readings, r :: more, rfl, by simp, by simp, by simp [hfields, hcounts]⟩

/-- The run over the templates of a directory has read each of them. -/
theorem exists_readings_of_generate (h : g.generate tree = .ok generation) :
    ∃ readings : List Reading, g.templates tree = .ok (readings.map (·.file)) ∧
      generation.templates.length = readings.length ∧
      generation.records.map (·.fields.length) = readings.map (·.fieldCount) ∧
      generation.diagnostics = readings.flatMap (·.findings g.config.warnsUnknown) := by
  obtain ⟨ts, rs, ds, hts, hrun, rfl⟩ := generate_eq_ok_iff.1 h
  obtain ⟨readings, more, rfl, rfl, rfl, hfields⟩ := exists_readings_of_foldlM hrun
  exact ⟨readings, hts, by simp, hfields, List.nil_append _⟩

/-- The templates are the files of a directory that are templates, in order. What is no directory
has none. -/
theorem mem_iff_and_pairwise_of_templates (hts : g.templates tree = .ok ts) :
    (∀ t, t ∈ ts ↔ tree.isDirectory g.dir = true ∧ g.HasTemplate tree t) ∧
      ts.Pairwise fun a b => a.1 < b.1 := by
  by_cases hdir : tree.isDirectory g.dir = true
  · obtain ⟨hmem, hsorted⟩ := (templates_eq_ok_iff hdir).1 hts
    exact ⟨fun t => (hmem t).trans (and_iff_right hdir).symm, hsorted⟩
  · have hnil : ts = [] := by
      rw [templates] at hts
      split at hts
      · cases hts
      · exact (Except.ok.inj hts).symm
      · exact (Except.ok.inj hts).symm
      · next hlookup => exact absurd (Tree.isDirectory_iff.2 hlookup) hdir
    rw [hnil]
    exact ⟨fun t => iff_of_false List.not_mem_nil fun h => hdir h.1, .nil⟩

end Generator

/-! ## The report -/

/-- A record as a report lists it. -/
def Record.listed (r : Record) : RecordSummary := ⟨r.name, r.templateFile, r.fieldSummaries⟩

@[simp]
theorem Record.length_fields_listed (r : Record) : r.listed.fields.length = r.fields.length :=
  List.length_map _

namespace Generation

variable (g : Generation)

/-- The report of a generation goes on with its records from that of its findings. -/
theorem report_eq_run : g.report = (g.records.map fun r => .record r.listed).foldl Report.add
    ((Report.ofDiagnostics g.diagnostics).setTemplates g.templates.length) := by
  rw [report, List.foldl_map]
  rfl

/-- The report of a generation has the counts of its lists. -/
theorem counts_report : g.report.Counts := by
  rw [report_eq_run, Report.ofDiagnostics_eq_run]
  exact ((Report.counts_empty.run _).setTemplates _).run _

/-- The report of a generation lists what was found and what was generated. -/
theorem lists_report : g.report.diagnostics = g.diagnostics ∧
    g.report.records = g.records.map Record.listed ∧
    g.report.summary.templates = g.templates.length := by
  obtain ⟨hdiagnostics, hrecords, htemplates, -⟩ := Report.lists_run
    ((Report.ofDiagnostics g.diagnostics).setTemplates g.templates.length)
    (g.records.map fun r => .record r.listed)
  obtain ⟨hfound, hempty⟩ := Report.lists_ofDiagnostics g.diagnostics
  have hnone : (g.records.map fun r => Report.Addition.record r.listed).filterMap
      Report.Addition.diagnostic? = [] := by
    simp [Report.Addition.diagnostic?]
  have hlisted : (g.records.map fun r => Report.Addition.record r.listed).filterMap
      Report.Addition.record? = g.records.map Record.listed := by
    rw [List.filterMap_map]
    exact congrFun List.filterMap_eq_map _
  rw [report_eq_run, hdiagnostics, hrecords, htemplates, hnone, hlisted, List.append_nil]
  exact ⟨hfound, congrArg (· ++ g.records.map Record.listed) hempty, rfl⟩

end Generation

namespace Generator

variable {g : Generator} {tree : Tree} {generation : Generation}

/-- **The report counts what was generated.** Each template has been read, in the order of the bytes
of the names. The report lists the records and what is found in the templates, file by file, the
unknown directives of a file before the literals that stay in it, each in the order of the source.
All findings are warnings. The report counts them, the templates and the names of their fields, and
its counts stay those of its lists whatever is added. -/
theorem report_of_generate (h : g.generate tree = .ok generation) :
    ∃ readings : List Reading,
      (∀ t, t ∈ readings.map (·.file) ↔ tree.isDirectory g.dir = true ∧ g.HasTemplate tree t) ∧
      (readings.Pairwise fun r r' => Text.utf8 r.name < Text.utf8 r'.name) ∧
      (∀ r ∈ readings,
        (r.unknown.Pairwise fun d d' => d.position.offset < d'.position.offset) ∧
        (unstripped r.source).Pairwise fun u u' => u.position.offset < u'.position.offset) ∧
      generation.report.diagnostics = generation.diagnostics ∧
      generation.report.records = generation.records.map Record.listed ∧
      generation.diagnostics = readings.flatMap (·.findings g.config.warnsUnknown) ∧
      generation.diagnostics.length = (readings.map (·.findingCount g.config.warnsUnknown)).sum ∧
      generation.report.summary = {
        total := generation.diagnostics.length
        errors := 0
        warnings := generation.diagnostics.length
        info := 0
        templates := readings.length
        records := readings.length
        fields := (readings.map (·.fieldCount)).sum } ∧
      ∀ additions : List Report.Addition,
        (additions.foldl Report.add generation.report).Counts ∧
        (additions.foldl Report.add generation.report).diagnostics =
          generation.report.diagnostics ++ additions.filterMap Report.Addition.diagnostic? ∧
        (additions.foldl Report.add generation.report).records =
          generation.report.records ++ additions.filterMap Report.Addition.record? := by
  obtain ⟨readings, hts, htemplates, hfields, hfound⟩ := exists_readings_of_generate h
  obtain ⟨hmem, hsorted⟩ := mem_iff_and_pairwise_of_templates hts
  obtain ⟨hdiagnostics, hlisted, hcounted⟩ := generation.lists_report
  refine ⟨readings, hmem, ?_, ?_, hdiagnostics, hlisted, hfound, ?_, ?_, ?_⟩
  · exact (List.pairwise_map.1 hsorted).imp Text.utf8_lt_iff.2
  · intro r _
    exact ⟨(Directive.pairwise_all r.source).filter _, pairwise_unstripped r.source⟩
  · rw [hfound, List.length_flatMap]
    simp only [Reading.length_findings]
  · have hwarn : ∀ d ∈ generation.report.diagnostics, d.severity = .warn := by
      intro d hd
      rw [hdiagnostics, hfound] at hd
      obtain ⟨r, -, hd⟩ := List.mem_flatMap.1 hd
      exact Reading.severity_of_mem_findings hd
    have hlength : generation.records.length = readings.length := by
      simpa using congrArg List.length hfields
    have hsum : (generation.report.records.map (·.fields.length)).sum =
        (readings.map (·.fieldCount)).sum := by
      simp [hlisted, Function.comp_def, hfields]
    rw [generation.counts_report.summary_eq hwarn, hdiagnostics, hsum, hcounted, htemplates,
      hlisted, List.length_map, hlength]
  · intro additions
    obtain ⟨hdiagnostics, hrecords, -⟩ := Report.lists_run generation.report additions
    exact ⟨generation.counts_report.run additions, hdiagnostics, hrecords⟩

private def countedGenerator : Generator := .usual ⟨"q"⟩

private def countedTree : Tree where
  cwd := []
  entries := [(["q"], .directory),
    (["q", "b.sql"], .file (.text "/** int .N **/1.50.2 /** parm .N **/ /** int .N **/1")),
    (["q", "a.sql"], .file (.text "/** parm .A **/1"))]
  nodup := by decide

private def countedRecords : List Record :=
  [⟨"AQueryElem", "a.sql", "A_QUERY_ELEM_SQL", []⟩,
    ⟨"BQueryElem", "b.sql", "B_QUERY_ELEM_SQL", [⟨"N", "n", .integer⟩]⟩]

private def countedFindings : List Diagnostic :=
  [UnknownDirective.toDiagnostic ⟨"parm", .start⟩ "a.sql",
    UnknownDirective.toDiagnostic ⟨"parm", ⟨21, 1, 22⟩⟩ "b.sql",
    Unstripped.toDiagnostic ⟨.number, "1.50", ⟨14, 1, 15⟩⟩ "b.sql"]

/-- Two unknown directives and a literal that stays are counted, and the name of a field that is
referred to twice is counted once. -/
theorem report_of_generate_two :
    ∃ generation, countedGenerator.generate countedTree = .ok generation ∧
      generation.report.summary = ⟨3, 0, 3, 0, 2, 2, 1⟩ ∧
      ∃ readings : List Reading, readings.length = 2 ∧ (readings.map (·.fieldCount)).sum = 1 ∧
        (readings.map (·.findingCount true)).sum = 3 := by
  have hts : countedGenerator.templates countedTree =
      .ok [("a.sql", .text "/** parm .A **/1"),
        ("b.sql", .text "/** int .N **/1.50.2 /** parm .N **/ /** int .N **/1")] := by
    have hplace : countedTree.locate countedGenerator.dir = .ok ["q"] := by decide
    exact templates_eq_ok_of_perm hplace (by decide) (by decide)
      (by decide)
  obtain ⟨generation, h, hsummary⟩ : ∃ generation,
      countedGenerator.generate countedTree = .ok generation ∧
        generation.report.summary = ⟨3, 0, 3, 0, 2, 2, 1⟩ :=
    ⟨_, generate_eq_ok_iff.2 ⟨_, countedRecords, countedFindings, hts, by decide +kernel, rfl⟩,
      rfl⟩
  obtain ⟨readings, -, -, -, -, -, -, hfound, hcounts, -⟩ := report_of_generate h
  rw [hsummary, Summary.mk.injEq] at hcounts
  obtain ⟨htotal, -, -, -, htemplates, -, hfields⟩ := hcounts
  exact ⟨generation, h, hsummary, readings, htemplates.symm, hfields.symm,
    (htotal.trans hfound).symm⟩

end Generator

end TwoWaySql

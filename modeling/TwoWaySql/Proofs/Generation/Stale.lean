import TwoWaySql.Proofs.Generation.Output
import TwoWaySql.Proofs.Generation.Records
import TwoWaySql.Proofs.Record.Source

/-!
# Stale files

A generated file that was made for other records is never taken for one that is up to date, since
the records are known from the file.
-/
namespace TwoWaySql.Generator

variable {g : Generator} {tree : Tree} {generation : Generation} {rs : List Record}

/-- What is generated is the file of the records. -/
theorem source_of_generate (h : g.generate tree = .ok generation) :
    generation.source = Source.ofRecords (g.sourceOptions tree.cwdPath) generation.records := by
  obtain ⟨ts, rs, ds, -, -, rfl⟩ := generate_eq_ok_iff.1 h
  rfl

theorem legible_of_generate (h : g.generate tree = .ok generation) :
    ∀ r ∈ generation.records, r.Legible := by
  intro r hr
  obtain ⟨ts, -, hrecords, -⟩ := exists_records_of_generate h
  obtain ⟨t, -, source, unknown, -, hrecord⟩ := (mem_records_iff hrecords.gives).1 hr
  exact Record.legible_of_ofTemplate hrecord

/-- Where the output holds the file of some records, it is up to date exactly if these are the
records that would be generated. -/
theorem isUpToDate_of_records (h : g.generate tree = .ok generation) (hrs : ∀ r ∈ rs, r.Legible)
    (hfile : tree.lookup generation.output =
      .ok (.file (.text (Source.ofRecords (g.sourceOptions tree.cwdPath) rs)))) :
    generation.isUpToDate tree = .ok (decide (rs = generation.records)) := by
  rw [Generation.isUpToDate, Tree.readText_eq_ok_iff.2 (.inl hfile), source_of_generate h]
  have hiff : Source.ofRecords (g.sourceOptions tree.cwdPath) rs =
      Source.ofRecords (g.sourceOptions tree.cwdPath) generation.records ↔
        rs = generation.records := by
    constructor
    · exact Source.ofRecords_inj hrs (legible_of_generate h)
    · rintro rfl
      rfl
  simp [hiff]

/-- **A stale file is always detected.** The records of templates have identifiers; records with
identifiers, whatever their files and fields are called, are known from the file that is generated
for them; and so a file is up to date only if it was generated for the same records. -/
theorem records_of_source :
    (∀ (file stem source suffix : Text) (r : Record) (unknown : List UnknownDirective),
      Record.ofTemplate file stem source suffix = .ok (r, unknown) → r.Legible) ∧
    (∀ (options : SourceOptions) (rs rs' : List Record), (∀ r ∈ rs, r.Legible) →
      (∀ r ∈ rs', r.Legible) → Source.ofRecords options rs = Source.ofRecords options rs' →
        rs = rs') ∧
    ∀ (g : Generator) (tree : Tree) (generation : Generation) (rs : List Record),
      g.generate tree = .ok generation → (∀ r ∈ rs, r.Legible) →
      tree.lookup generation.output =
        .ok (.file (.text (Source.ofRecords (g.sourceOptions tree.cwdPath) rs))) →
        generation.isUpToDate tree = .ok (decide (rs = generation.records)) :=
  ⟨fun _ _ _ _ _ _ h => Record.legible_of_ofTemplate h,
    fun _ _ _ hrs hrs' h => Source.ofRecords_inj hrs hrs' h,
    fun _ _ _ _ h hrs hfile => isUpToDate_of_records h hrs hfile⟩

private def staleGenerator : Generator := .usual ⟨"q"⟩

private def staleRecord (type : FieldType) : Record :=
  ⟨"FindQueryElem", "find.sql", "FIND_QUERY_ELEM_SQL", [⟨"id", "id", type⟩]⟩

/-- A template, and a file from the time when its parameter could be anything. -/
private def staleTree : Tree where
  cwd := []
  entries := [(["q"], .directory), (["q", "find.sql"], .file (.text "SELECT /** int .id **/")),
    (["q", "query_elements_gen.rs"], .file (.text
      (Source.ofRecords (staleGenerator.sourceOptions ⟨"/"⟩) [staleRecord .scalar])))]
  nodup := by decide

/-- A parameter that has become an integer makes a file stale. -/
theorem records_of_source_stale :
    ∃ generation, staleGenerator.generate staleTree = .ok generation ∧
      generation.records = [staleRecord .integer] ∧
      generation.isUpToDate staleTree = .ok false ∧
      Source.ofRecords .initial [staleRecord .scalar] ≠
        Source.ofRecords .initial [staleRecord .integer] := by
  obtain ⟨hlegible, hknown, hstale⟩ := records_of_source
  have hscalar : ∀ r ∈ [staleRecord .scalar], r.Legible := by
    have hrecord : Record.ofTemplate "find.sql" "find" "SELECT /** param .id **/" "QueryElem" =
        .ok (staleRecord .scalar, []) := by decide +kernel
    simpa using hlegible _ _ _ _ _ _ hrecord
  have hinteger : ∀ r ∈ [staleRecord .integer], r.Legible := by
    have hrecord : Record.ofTemplate "find.sql" "find" "SELECT /** int .id **/" "QueryElem" =
        .ok (staleRecord .integer, []) := by decide +kernel
    simpa using hlegible _ _ _ _ _ _ hrecord
  have hts : staleGenerator.templates staleTree =
      .ok [("find.sql", .text "SELECT /** int .id **/")] := by
    have hplace : staleTree.locate staleGenerator.dir = .ok ["q"] := by decide
    exact templates_eq_ok_of_perm hplace (by decide) (by decide) (by simp)
  obtain ⟨generation, hgenerate, hrecords, houtput⟩ : ∃ generation,
      staleGenerator.generate staleTree = .ok generation ∧
        generation.records = [staleRecord .integer] ∧
        generation.output = staleGenerator.config.outputPath :=
    ⟨_, generate_eq_ok_iff.2 ⟨_, [staleRecord .integer], [], hts, by decide +kernel, rfl⟩, rfl, rfl⟩
  refine ⟨generation, hgenerate, hrecords, ?_, fun heq => ?_⟩
  · have hfile : staleTree.lookup generation.output = .ok (.file (.text
        (Source.ofRecords (staleGenerator.sourceOptions staleTree.cwdPath)
          [staleRecord .scalar]))) := by
      rw [houtput]
      decide +kernel
    rw [hstale _ _ _ _ hgenerate hscalar hfile, hrecords]
    rfl
  · exact absurd (hknown _ _ _ hscalar hinteger heq) (by decide)

end TwoWaySql.Generator

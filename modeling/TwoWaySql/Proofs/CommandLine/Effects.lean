import TwoWaySql.Proofs.CommandLine.Stages

/-!
# What a run changes

A run may write the generated file and store a report, and nothing else: all templates have given
their records before anything is written, so a generation that fails leaves the file of the last
one as it was. Whether a run succeeds is told by the same three stages.

## Main definitions

* `CommandLine.Touches` — what a run may change.
-/
namespace TwoWaySql.CommandLine

variable {o : Options} {timestamp : Text} {tree tree' : Tree} {place : Place} {config : Config}
  {arguments : List Text} {outcome : Outcome} {t : Text × Content} {e : GenerationError}

/-- Whether a run may change what stands at a place. -/
inductive Touches (o : Options) (tree tree' : Tree) (place : Place) : Prop
  /-- The output is there, and it was to be written. -/
  | output (g : Generation) (hcheck : o.check = false) (hg : Generates o tree g)
      (hplace : tree'.locate g.output = .ok place)
  /-- A directory above the output is there that was missing, and the output was to be written. -/
  | directory (g : Generation) (p : Path) (hcheck : o.check = false) (hg : Generates o tree g)
      (hp : p ∈ g.directories) (hplace : tree'.locate p = .ok place)
      (hmissing : tree.get? place = none) (hcreated : tree'.get? place = some .directory)
  /-- The report is there, and one was wanted. -/
  | report (path : Path) (hpath : o.report = some path) (hplace : tree'.locate path = .ok place)

/-- Options generate if the directory is there, the configuration can be loaded, and the templates
give records of different names. -/
theorem exists_generates_iff : (∃ g, Generates o tree g) ↔
    tree.isDirectory o.dir = true ∧ ∃ config, loadConfig o tree = .ok config ∧
      ∃ ts rs, (Generator.ofConfig o.dir config).templates tree = .ok ts ∧
        (Generator.ofConfig o.dir config).Records ts rs := by
  constructor
  · rintro ⟨g, hdir, config, hconfig, hgenerate⟩
    obtain ⟨ts, hts, hrecords, -⟩ := Generator.exists_records_of_generate hgenerate
    exact ⟨hdir, config, hconfig, ts, g.records, hts, hrecords⟩
  · rintro ⟨hdir, config, hconfig, ts, rs, hts, hrecords⟩
    obtain ⟨g, hgenerate⟩ := (Generator.exists_generate_iff hts).2 ⟨rs, hrecords⟩
    exact ⟨g, hdir, config, hconfig, hgenerate⟩

/-- One template that fails by itself is enough for nothing to be generated. -/
theorem not_generates_of_refuses (hconfig : loadConfig o tree = .ok config)
    (ht : (Generator.ofConfig o.dir config).HasTemplate tree t)
    (hrefuses : (Generator.ofConfig o.dir config).Refuses t e) : ¬∃ g, Generates o tree g := by
  rintro ⟨g, hdir, config', hconfig', hgenerate⟩
  obtain rfl : config' = config := by simpa [hconfig'] using hconfig
  obtain ⟨ts, rs, ds, hts, hrun, -⟩ := Generator.generate_eq_ok_iff.1 hgenerate
  have hmem := (((Generator.templates_eq_ok_iff hdir).1 hts).1 t).2 ht
  obtain ⟨sofar, next, after, hadd, -⟩ := Outcome.exists_of_foldlM_eq_ok hrun hmem
  obtain ⟨found, hrecord, -⟩ := Outcome.bind_eq_ok.1 hadd
  rw [Generator.ofTemplate_eq_error_iff.2 hrefuses] at hrecord
  cases hrecord

/-- A run takes no directory away. -/
theorem keeps_stages : Tree.Keeps tree (stages o timestamp tree).tree := by
  obtain ⟨written, hwritten, hstored⟩ := tree_stages o timestamp tree
  exact hwritten.keeps.trans hstored.keeps

/-- Where a run changed something, it may have. -/
theorem touches_stages
    (hplace : (stages o timestamp tree).tree.get? place ≠ tree.get? place) :
    Touches o tree (stages o timestamp tree).tree place := by
  obtain ⟨written, hwritten, hstored⟩ := tree_stages o timestamp tree
  by_cases hreport : ∃ path ∈ o.report, written.locate path = .ok place
  · obtain ⟨path, hpath, hlocate⟩ := hreport
    exact .report path hpath (hstored.keeps.locate hlocate)
  · -- then it was changed before the report was stored
    have hsame := hstored.get?_eq fun path hpath hlocate => hreport ⟨path, hpath, hlocate⟩
    rw [hsame] at hplace
    rcases hwritten with rfl | ⟨hcheck, g, hg, rfl⟩
    · exact absurd rfl hplace
    · rcases Generation.changes_write hplace with houtput | ⟨hmissing, hcreated, p, hp, hlocate⟩
      · exact .output g hcheck hg (hstored.keeps.locate houtput)
      · exact .directory g p hcheck hg hp (hstored.keeps.locate hlocate) hmissing
          (hsame.trans hcreated)

/-- A run that compares only, or that generates nothing, changes at most the place of the report. -/
theorem get?_stages (h : o.check = true ∨ ¬∃ g, Generates o tree g)
    (hplace : ∀ path ∈ o.report, tree.locate path ≠ .ok place) :
    (stages o timestamp tree).tree.get? place = tree.get? place := by
  obtain ⟨written, rfl | ⟨hcheck, g, hg, -⟩, hstored⟩ := tree_stages o timestamp tree
  · exact hstored.get?_eq hplace
  · rcases h with h | h
    · rw [hcheck] at h
      cases h
    · exact absurd ⟨g, hg⟩ h

/-- **A run changes all it is to change, or nothing.** Arguments that ask for no generation change
nothing. A generation changes at most the output, the directories above it that are missing, and the
place of the report; and the first two only if the output is to be written and everything was
generated. Everything is generated if the directory is there, the configuration can be loaded, and
the templates give records of different names; one template that fails is enough for nothing to be
generated. The run succeeds exactly if everything is generated, the output is written or found to be
up to date, and the report is stored. -/
theorem run_changes (hrun : run arguments timestamp tree = (outcome, tree')) :
    ((∀ o, command arguments ≠ .generate o) → tree' = tree) ∧
    ∀ o, command arguments = .generate o →
      (Tree.Keeps tree tree' ∧
        ∀ place, tree'.get? place ≠ tree.get? place → Touches o tree tree' place) ∧
      ((o.check = true ∨ ¬∃ g, Generates o tree g) → ∀ place,
        (∀ path ∈ o.report, tree.locate path ≠ .ok place) →
          tree'.get? place = tree.get? place) ∧
      ((∃ g, Generates o tree g) ↔
        tree.isDirectory o.dir = true ∧ ∃ config, loadConfig o tree = .ok config ∧
          ∃ ts rs, (Generator.ofConfig o.dir config).templates tree = .ok ts ∧
            (Generator.ofConfig o.dir config).Records ts rs) ∧
      (∀ config t e, loadConfig o tree = .ok config →
        (Generator.ofConfig o.dir config).HasTemplate tree t →
          (Generator.ofConfig o.dir config).Refuses t e → ¬∃ g, Generates o tree g) ∧
      ∀ stored, outcome.exitCode = 0 ∧ tree' = stored ↔
        ∃ g written, Generates o tree g ∧ Delivers o g tree written ∧
          Stores o timestamp g.report written stored := by
  constructor
  · intro hother
    rw [run] at hrun
    cases hcommand : command arguments with
    | generate o => exact absurd hcommand (hother o)
    | refused | help | version =>
        rw [hcommand] at hrun
        cases hrun
        rfl
  · intro o hcommand
    rw [run, hcommand] at hrun
    cases hrun
    exact ⟨⟨keeps_stages, fun _ => touches_stages⟩, fun h _ => get?_stages h, exists_generates_iff,
      fun _ _ _ => not_generates_of_refuses, fun _ => exitCode_stages_eq_zero_iff⟩

/-- A generated file of an earlier run, and a template that is no text. -/
private def brokenTree : Tree where
  cwd := []
  entries := [(["q"], .directory), (["q", "find.sql"], .file (.binary [255])),
    (["q", "query_elements_gen.rs"], .file (.text "// old"))]
  nodup := by decide

/-- The template fails, so the generated file stays as it was; the report of it is stored. -/
theorem run_changes_broken : ∃ outcome tree',
    run ["q", "--report", "r.json"] "T" brokenTree = (outcome, tree') ∧
      outcome.exitCode ≠ 0 ∧ ∀ place : Place, place ≠ ["r.json"] →
        tree'.get? place = brokenTree.get? place := by
  have hcommand : command ["q", "--report", "r.json"] =
      .generate ⟨⟨"q"⟩, none, none, none, false, some ⟨"r.json"⟩, false⟩ := by decide
  have hlocate : brokenTree.locate ⟨"q"⟩ = .ok ["q"] := by decide
  have hreport : brokenTree.locate ⟨"r.json"⟩ = .ok ["r.json"] := by decide
  obtain ⟨outcome, tree', hrun⟩ : ∃ outcome tree',
      run ["q", "--report", "r.json"] "T" brokenTree = (outcome, tree') := ⟨_, _, rfl⟩
  obtain ⟨-, hframe, -, hrefuses, hcode⟩ := (run_changes hrun).2 _ hcommand
  have hnone := hrefuses (.usualFor ⟨"q"⟩) ("find.sql", .binary [255]) _ rfl
    ⟨by decide, ["q"], hlocate, by decide⟩ (.inl ⟨[255], rfl, rfl⟩)
  refine ⟨outcome, tree', hrun, fun hzero => ?_, fun place hplace => ?_⟩
  · obtain ⟨g, -, hg, -⟩ := (hcode tree').1 ⟨hzero, rfl⟩
    exact hnone ⟨g, hg⟩
  · refine hframe (.inr hnone) place fun path hpath => ?_
    obtain rfl : path = ⟨"r.json"⟩ := by simpa using hpath.symm
    rw [hreport]
    exact fun heq => hplace (Except.ok.inj heq).symm

end TwoWaySql.CommandLine

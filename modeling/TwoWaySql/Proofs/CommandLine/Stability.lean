import TwoWaySql.Proofs.CommandLine.Check
import TwoWaySql.Proofs.Config
import TwoWaySql.Proofs.Generation.Inputs

/-!
# Checking what was written

A file that was just generated is up to date, as long as it is nothing that the generation reads.
What is read is the configuration and the templates, and nothing keeps the output away from them. In
the place of the configuration the generated file is none, and the next run breaks off. As one more
template it has a record of its own, which the file does not have. In the place of a template it is
up to date only if the record happens to be the same. And where the output went into a sink, there
is no file.

## Main definitions

* `CommandLine.configPath` — where a run looks for its configuration.
* `CommandLine.Wrote` — a tree has what was generated at a place.
* `CommandLine.Drained` — what was generated went into a sink.
-/
namespace TwoWaySql.CommandLine

variable {o : Options} {timestamp timestamp' : Text} {tree tree' : Tree} {place : Place}
  {config : Config} {arguments : List Text} {outcome : Outcome} {g g' : Generation} {t : Text}
  {code : Nat} {P : Place → Prop}

/-- Where a run looks for its configuration. -/
def configPath (o : Options) : Path := o.config.getD (o.dir.join Config.fileName)

/-- The configuration of a run, before the options replace something in it. -/
def findConfig (o : Options) (tree : Tree) : Except ConfigError Config :=
  match o.config with
  | some path => Config.ofFile tree path
  | none => Config.ofDirectory tree o.dir

theorem loadConfig_eq_ok_iff : loadConfig o tree = .ok config ↔
    ∃ found, findConfig o tree = .ok found ∧ { found with
      output := o.output.getD found.output, dialect := o.dialect.getD found.dialect } = config := by
  rw [loadConfig, findConfig]
  cases o.config <;> simp [Outcome.bind_eq_ok, Outcome.mapError_eq_ok]

/-- What changes at other places leaves the configuration as it is. -/
theorem loadConfig_of_spares (h : Tree.Spares P tree tree') (hdir : tree.isDirectory o.dir = true)
    (hplace : ∀ place, tree.locate (configPath o) = .ok place → ¬P place)
    (hconfig : loadConfig o tree = .ok config) : loadConfig o tree' = .ok config := by
  obtain ⟨found, hfound, hread⟩ := loadConfig_eq_ok_iff.1 hconfig
  refine loadConfig_eq_ok_iff.2 ⟨found, ?_, hread⟩
  rw [configPath] at hplace
  rw [findConfig] at hfound ⊢
  cases hpath : o.config with
  | none =>
      rw [hpath] at hfound hplace
      exact Config.ofDirectory_of_spares h hdir hplace hfound
  | some path =>
      rw [hpath] at hfound hplace
      exact Config.ofFile_of_spares h hplace hfound

/-- In the place of the configuration, a text that starts with a slash is none. -/
theorem loadConfig_ne_ok_of_puts (h : Tree.Puts place (.text ('/' :: t)) tree tree')
    (hplace : tree.locate (configPath o) = .ok place) : loadConfig o tree' ≠ .ok config := by
  intro hconfig
  obtain ⟨found, hfound, -⟩ := loadConfig_eq_ok_iff.1 hconfig
  rw [configPath] at hplace
  rw [findConfig] at hfound
  cases hpath : o.config with
  | none =>
      rw [hpath] at hfound hplace
      exact Config.ofDirectory_ne_ok_of_puts h hplace hfound
  | some path =>
      rw [hpath] at hfound hplace
      exact Config.ofFile_ne_ok_of_puts h hplace hfound

/-! ## The tree after a run -/

/-- Whether a tree is another with what is generated for options put at a place. -/
structure Wrote (o : Options) (g : Generation) (place : Place) (tree tree' : Tree) : Prop where
  /-- It is generated. -/
  generates : Generates o tree g
  /-- The output leads to the place. -/
  output : tree'.locate g.output = .ok place
  /-- The output is the path of a file. -/
  slash : Tree.endsInSlash g.output = false
  /-- The generated file stands there. -/
  puts : Tree.Puts place (.text g.source) tree tree'

/-- Whether what is generated for options went into a sink at a place: no more than directories were
created. -/
structure Drained (o : Options) (g : Generation) (place : Place) (tree tree' : Tree) : Prop where
  /-- It is generated. -/
  generates : Generates o tree g
  /-- The output leads to the place. -/
  output : tree'.locate g.output = .ok place
  /-- There is a sink. -/
  sink : tree'.get? place = some .sink
  /-- Directories were created where they were missing. -/
  creates : Tree.Creates g.directories tree tree'

theorem drained_or_wrote_of_write (hg : Generates o tree g)
    (hwrite : g.write tree = (tree', .ok ())) :
    ∃ place, Drained o g place tree tree' ∨ Wrote o g place tree tree' := by
  obtain ⟨place, hplace, hslash, ⟨hsink, hcreates⟩ | hputs⟩ :=
    Generation.exists_puts_of_write hwrite
  · exact ⟨place, .inl ⟨hg, hplace, hsink, hcreates⟩⟩
  · exact ⟨place, .inr ⟨hg, hplace, hslash, hputs⟩⟩

/-- Options that succeed have written what they generate. -/
theorem drained_or_wrote_of_exitCode (hcheck : o.check = false) (hreport : o.report = none)
    (hcode : (conclude o (stages o timestamp tree)).exitCode = 0) :
    ∃ g place, Drained o g place tree (stages o timestamp tree).tree ∨
      Wrote o g place tree (stages o timestamp tree).tree := by
  obtain ⟨g, written, hg, hwrite, hwritten⟩ := (exitCode_write_iff hcheck hreport timestamp tree
    fun tree' => (stages o timestamp tree).tree = tree').1 ⟨hcode, rfl⟩
  rw [hwritten]
  exact ⟨g, drained_or_wrote_of_write hg hwrite⟩

/-- Where the configuration stays and the templates do, the next generation is the same. -/
theorem generates_of_spares (h : Tree.Spares P tree tree') (hg : Generates o tree g)
    (hplace : ∀ place, tree.locate (configPath o) = .ok place → ¬P place)
    (hfree : ∀ place, P place → ¬Generator.TakesFrom o.dir tree place) : Generates o tree' g := by
  obtain ⟨hdir, config, hconfig, hgenerate⟩ := hg
  refine ⟨h.toKeeps.isDirectory hdir, config, loadConfig_of_spares h hdir hplace hconfig, ?_⟩
  rw [Generator.generate_of_spares h hdir hfree, hgenerate]

/-- A sink has nothing of what went into it, so the same is generated and not found there. -/
theorem Drained.exitCode_eq_one (h : Drained o g place tree tree') (hreport : o.report = none) :
    (conclude { o with check := true } (stages { o with check := true } timestamp tree')).exitCode =
      1 := by
  have hg : Generates o tree' g := generates_of_spares h.creates.spares h.generates (by simp) nofun
  refine exitCode_conclude_of_ne_zero fun hzero => ?_
  obtain ⟨g', hg', hlookup⟩ := (exitCode_compare_iff hreport timestamp tree').1 hzero
  rw [hg.unique hg'] at hlookup
  obtain ⟨q, hq, hfile, -⟩ := Tree.lookup_eq_file_iff.1 hlookup
  obtain rfl : place = q := Except.ok.inj (h.output.symm.trans hq)
  rw [h.sink] at hfile
  cases hfile

namespace Wrote

/-- Where the configuration stays, what is generated next is generated with the same one. -/
theorem exists_config (h : Wrote o g place tree tree')
    (hplace : tree.locate (configPath o) ≠ .ok place) (hg : Generates o tree' g') :
    ∃ config, (Generator.ofConfig o.dir config).generate tree = .ok g ∧
      (Generator.ofConfig o.dir config).generate tree' = .ok g' := by
  obtain ⟨hdir, config, hconfig, hgenerate⟩ := h.generates
  obtain ⟨-, config', hconfig', hgenerate'⟩ := hg
  have hspared : ∀ q, tree.locate (configPath o) = .ok q → ¬q = place := by
    rintro q hq rfl
    exact hplace hq
  rw [loadConfig_of_spares h.puts.toSpares hdir hspared hconfig] at hconfig'
  cases hconfig'
  exact ⟨config, hgenerate, hgenerate'⟩

/-- Where the configuration stays, the output of the next generation is the same. -/
theorem output_eq (h : Wrote o g place tree tree')
    (hplace : tree.locate (configPath o) ≠ .ok place) (hg : Generates o tree' g') :
    g'.output = g.output := by
  obtain ⟨config, hgenerate, hgenerate'⟩ := h.exists_config hplace hg
  obtain ⟨_, _, _, -, -, rfl⟩ := Generator.generate_eq_ok_iff.1 hgenerate
  obtain ⟨_, _, _, -, -, rfl⟩ := Generator.generate_eq_ok_iff.1 hgenerate'
  rfl

/-- Where the configuration stays, the output is up to date if the same is generated again. -/
theorem exitCode_iff (h : Wrote o g place tree tree') (hreport : o.report = none)
    (hplace : tree.locate (configPath o) ≠ .ok place) :
    (conclude { o with check := true } (stages { o with check := true } timestamp tree')).exitCode =
        0 ↔
      ∃ g', Generates o tree' g' ∧ g'.source = g.source := by
  have hlookup := h.puts.lookup_self h.output h.slash
  rw [exitCode_compare_iff hreport]
  refine exists_congr fun g' => and_congr_right fun hg' => ?_
  rw [h.output_eq hplace hg', hlookup]
  simp [eq_comm]

/-- What is neither the configuration nor a template is generated again as it is. -/
theorem generates_of_not_takesFrom (h : Wrote o g place tree tree')
    (hplace : tree.locate (configPath o) ≠ .ok place)
    (hfree : ¬Generator.TakesFrom o.dir tree place) : Generates o tree' g := by
  refine generates_of_spares h.puts.toSpares h.generates ?_ ?_
  · rintro q hq rfl
    exact hplace hq
  · rintro q rfl
    exact hfree

/-- In the place of the configuration, nothing is generated any more. -/
theorem not_generates_of_config (h : Wrote o g place tree tree')
    (hplace : tree.locate (configPath o) = .ok place) : ¬∃ g', Generates o tree' g' := by
  rintro ⟨g', -, config', hconfig', -⟩
  obtain ⟨-, config, -, hgenerate⟩ := h.generates
  obtain ⟨t, ht⟩ := Generator.exists_source_eq_cons hgenerate
  have hputs := h.puts
  rw [ht] at hputs
  exact loadConfig_ne_ok_of_puts hputs hplace hconfig'

/-- As one more template, the generated file makes the next one longer. -/
theorem source_ne_of_new (h : Wrote o g place tree tree')
    (hplace : tree.locate (configPath o) ≠ .ok place)
    (htakes : Generator.TakesFrom o.dir tree place)
    (hnew : ∀ c, tree.get? place ≠ some (.file c)) (hg : Generates o tree' g') :
    g'.source ≠ g.source := by
  obtain ⟨config, hgenerate, hgenerate'⟩ := h.exists_config hplace hg
  have hlt := Generator.length_source_lt_of_puts h.puts htakes hnew h.generates.1 hgenerate
    hgenerate'
  exact fun heq => absurd (congrArg List.length heq) (Nat.ne_of_gt hlt)

/-- How a run ends that compares what was written before. -/
theorem exitCode_check (h : Wrote o g place tree tree') (hreport : o.report = none)
    (hcode : (conclude { o with check := true }
      (stages { o with check := true } timestamp tree')).exitCode = code) :
    (tree.locate (configPath o) ≠ .ok place → ¬Generator.TakesFrom o.dir tree place →
      code = 0) ∧
    (tree.locate (configPath o) = .ok place → code = 1) ∧
    (Generator.TakesFrom o.dir tree place → (∀ c, tree.get? place ≠ some (.file c)) →
      code = 1) ∧
    (tree.locate (configPath o) ≠ .ok place →
      (code = 0 ↔ ∃ g', Generates o tree' g' ∧ g'.source = g.source)) := by
  subst hcode
  have hconfig : tree.locate (configPath o) = .ok place →
      (conclude { o with check := true }
        (stages { o with check := true } timestamp tree')).exitCode = 1 := by
    intro hplace
    refine exitCode_conclude_of_ne_zero fun hzero => ?_
    obtain ⟨g', hg', -⟩ := (exitCode_compare_iff hreport timestamp tree').1 hzero
    exact h.not_generates_of_config hplace ⟨g', hg'⟩
  refine ⟨fun hplace hfree => ?_, hconfig, fun htakes hnew => ?_, h.exitCode_iff hreport⟩
  · exact (h.exitCode_iff hreport hplace).2 ⟨g, h.generates_of_not_takesFrom hplace hfree, rfl⟩
  · by_cases hplace : tree.locate (configPath o) = .ok place
    · exact hconfig hplace
    · refine exitCode_conclude_of_ne_zero fun hzero => ?_
      obtain ⟨g', hg', hsource⟩ := (h.exitCode_iff hreport hplace).1 hzero
      exact h.source_ne_of_new hplace htakes hnew hg' hsource

end Wrote

/-! ## The second run -/

/-- **Checking after writing.** If a run without `--check` and `--report` succeeds, the run with
`--check` in front succeeds on the tree that it leaves, unless the output is something that the run
reads, or went into a sink. If it went into a sink, the check fails. If it leads to the
configuration, the check fails. If it leads to a place among the templates where no file was, the
check fails. If it leads to a template, the check succeeds exactly if the same is generated with the
template overwritten. -/
theorem exitCode_check_after_run (hcheck : .flag .check ∉ pieces arguments)
    (hreport : ∀ path, .valued .report path ∉ pieces arguments)
    (hrun : run arguments timestamp tree = (outcome, tree')) (hcode : outcome.exitCode = 0)
    (hagain : (run ("--check" :: arguments) timestamp' tree').1.exitCode = code) :
    ((∀ o, command arguments ≠ .generate o) → code = 0) ∧
    ∀ o, command arguments = .generate o → ∃ g place,
      Drained o g place tree tree' ∧ code = 1 ∨
      Wrote o g place tree tree' ∧
        (tree.locate (configPath o) ≠ .ok place → ¬Generator.TakesFrom o.dir tree place →
          code = 0) ∧
        (tree.locate (configPath o) = .ok place → code = 1) ∧
        (Generator.TakesFrom o.dir tree place → (∀ c, tree.get? place ≠ some (.file c)) →
          code = 1) ∧
        (tree.locate (configPath o) ≠ .ok place →
          (code = 0 ↔ ∃ g', Generates o tree' g' ∧ g'.source = g.source)) := by
  rw [run, command_check hcheck] at hagain
  rw [run] at hrun
  cases hcommand : command arguments with
  | refused =>
      rw [hcommand] at hrun
      cases hrun
      cases hcode
  | help | version =>
      rw [hcommand] at hagain
      exact ⟨fun _ => hagain.symm, fun o ho => by cases ho⟩
  | generate o =>
      rw [hcommand] at hrun hagain
      cases hrun
      refine ⟨fun hother => absurd rfl (hother o), fun o' ho' => ?_⟩
      cases ho'
      obtain ⟨hwrites, hnone⟩ := takeAll_of_ne hcheck hreport hcommand
      obtain ⟨g, place, hdrained | hwrote⟩ := drained_or_wrote_of_exitCode hwrites hnone hcode
      · exact ⟨g, place, .inl ⟨hdrained, hagain.symm.trans (hdrained.exitCode_eq_one hnone)⟩⟩
      · exact ⟨g, place, .inr ⟨hwrote, hwrote.exitCode_check hnone hagain⟩⟩

/-- A run that writes what it generates succeeds. -/
theorem exists_run_of_write (hcommand : command arguments = .generate o) (hcheck : o.check = false)
    (hreport : o.report = none) (hg : Generates o tree g)
    (hwrite : g.write tree = (tree', .ok ())) (timestamp : Text) :
    ∃ outcome, run arguments timestamp tree = (outcome, tree') ∧ outcome.exitCode = 0 := by
  obtain ⟨hcode, htree⟩ := (exitCode_write_iff hcheck hreport timestamp tree (· = tree')).2
    ⟨g, tree', hg, hwrite, rfl⟩
  refine ⟨_, ?_, hcode⟩
  rw [run, hcommand, ← htree]

theorem exitCode_check_after_run_beside : .flag .check ∉ pieces ["q", "--output", "out.rs"] ∧
    (∀ path, .valued .report path ∉ pieces ["q", "--output", "out.rs"]) ∧
    ∃ outcome tree', run ["q", "--output", "out.rs"] "T" sampleTree = (outcome, tree') ∧
      outcome.exitCode = 0 ∧ tree' = writtenTree ∧
      (run ["--check", "q", "--output", "out.rs"] "T" tree').1.exitCode = 0 := by
  obtain ⟨hcheck, hreport⟩ := @pieces_sample "out.rs" (by decide)
  have hcommand : command ["q", "--output", "out.rs"] = .generate (sampleOptions ⟨"out.rs"⟩) := by
    decide
  have hg := generates_sampleTree ⟨"out.rs"⟩
  have hwrite : (sampleGeneration ⟨"out.rs"⟩).write sampleTree = (writtenTree, .ok ()) := by
    decide +kernel
  obtain ⟨outcome, hrun, hcode⟩ := exists_run_of_write hcommand rfl rfl hg hwrite "T"
  obtain ⟨code, hagain⟩ : ∃ code,
      (run ["--check", "q", "--output", "out.rs"] "T" writtenTree).1.exitCode = code := ⟨_, rfl⟩
  obtain ⟨g, place, hends⟩ :=
    (exitCode_check_after_run hcheck hreport hrun hcode hagain).2 _ hcommand
  have houtput : writtenTree.locate (sampleGeneration ⟨"out.rs"⟩).output = .ok ["q", "out.rs"] := by
    decide
  rcases hends with ⟨hdrained, -⟩ | ⟨hwrote, hfree, -⟩
  · -- a file stands where the output leads
    obtain rfl : g = sampleGeneration ⟨"out.rs"⟩ := hg.unique hdrained.generates
    obtain rfl : place = (["q", "out.rs"] : Place) :=
      Except.ok.inj (hdrained.output.symm.trans houtput)
    exact absurd hdrained.sink (by decide)
  · obtain rfl : g = sampleGeneration ⟨"out.rs"⟩ := hg.unique hwrote.generates
    obtain rfl : place = (["q", "out.rs"] : Place) :=
      Except.ok.inj (hwrote.output.symm.trans houtput)
    refine ⟨hcheck, hreport, outcome, _, hrun, hcode, rfl,
      hagain.trans (hfree (by decide) ?_)⟩
    rintro ⟨dir, name, -, hname, hplace⟩
    have hlast : some name = some ("out.rs" : Text) := by
      rw [← List.getLast?_concat (l := dir), ← hplace]
      rfl
    rw [Option.some.inj hlast] at hname
    exact absurd hname (by decide)

/-- A template directory with nothing in it. -/
private def bareTree : Tree where
  cwd := []
  entries := [(["q"], .directory)]
  nodup := by decide

private def bareGeneration : Generation :=
  ⟨⟨"q/out.sql"⟩, Text.lines [Source.header], [], [], []⟩

private def templateTree : Tree :=
  bareTree.set ["q", "out.sql"] (.file (.text bareGeneration.source))

/-- An output with the extension of the templates is one of them from then on. -/
theorem exitCode_check_after_run_template :
    .flag .check ∉ pieces ["q", "--output", "out.sql"] ∧
      (∀ path, .valued .report path ∉ pieces ["q", "--output", "out.sql"]) ∧
      ∃ outcome tree', run ["q", "--output", "out.sql"] "T" bareTree = (outcome, tree') ∧
        outcome.exitCode = 0 ∧
        (run ["--check", "q", "--output", "out.sql"] "T" tree').1.exitCode = 1 := by
  obtain ⟨hcheck, hreport⟩ := @pieces_sample "out.sql" (by decide)
  have hcommand : command ["q", "--output", "out.sql"] = .generate (sampleOptions ⟨"out.sql"⟩) := by
    decide
  have hcommand' : command ["--check", "q", "--output", "out.sql"] =
      .generate { sampleOptions ⟨"out.sql"⟩ with check := true } := by decide
  have hplace : bareTree.locate ⟨"q"⟩ = .ok ["q"] := by decide
  have hts : (sampleGenerator ⟨"out.sql"⟩).templates bareTree = .ok [] :=
    Generator.templates_eq_ok_of_perm hplace (by decide) (by decide) .nil
  have hg : Generates (sampleOptions ⟨"out.sql"⟩) bareTree bareGeneration :=
    ⟨by decide, (sampleGenerator ⟨"out.sql"⟩).config, by decide,
      Generator.generate_eq_ok_iff.2 ⟨[], [], [], hts, rfl, by decide⟩⟩
  have hwrite : bareGeneration.write bareTree = (templateTree, .ok ()) := by decide
  obtain ⟨outcome, hrun, hcode⟩ := exists_run_of_write hcommand rfl rfl hg hwrite "T"
  have hwrote : Wrote (sampleOptions ⟨"out.sql"⟩) bareGeneration ["q", "out.sql"] bareTree
      templateTree :=
    ⟨hg, by decide, by decide, .set (.refl [] bareTree) (by simp) (by decide)⟩
  refine ⟨hcheck, hreport, outcome, _, hrun, hcode, ?_⟩
  rw [run, hcommand']
  -- the file that was written is one more template
  have htakes : Generator.TakesFrom ⟨"q"⟩ bareTree ["q", "out.sql"] :=
    ⟨["q"], "out.sql", hplace, by decide, rfl⟩
  have hnone : bareTree.get? ["q", "out.sql"] = none := by decide
  refine (hwrote.exitCode_check rfl rfl).2.2.1 htakes fun c hc => ?_
  rw [hnone] at hc
  cases hc

end TwoWaySql.CommandLine

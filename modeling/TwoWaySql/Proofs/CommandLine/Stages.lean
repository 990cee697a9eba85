import TwoWaySql.CommandLine.Run
import TwoWaySql.Proofs.Generation.Output
import TwoWaySql.Proofs.Generation.Report

/-!
# The stages of a run

A run generates, writes or compares the output, and stores a report where one is wanted. A stage
either goes through or breaks the run off, and a run succeeds if every stage goes through and no
error is found. What a run can do to the tree is said once here: it writes the generated file, if it
is not to be compared only, and it stores the report; and for the first it has to have generated.

## Main definitions

* `CommandLine.Generates` — what is generated for the options of a run.
* `CommandLine.Delivers` — the output is written, or is as it would be written.
* `CommandLine.Stores` — the report is stored where one is wanted.
* `CommandLine.Stage.Ends` — a stage goes through.
* `CommandLine.MayWrite`, `CommandLine.MayStore` — what the stages can do to the tree.
-/
namespace TwoWaySql.CommandLine

variable {o : Options} {timestamp : Text} {tree written stored : Tree} {place : Place}
  {config : Config} {g g' : Generation} {r r' : Report}

/-- Whether a generation is the one that options ask for: the directory is there, the configuration
can be loaded, and all templates give their records. -/
def Generates (o : Options) (tree : Tree) (g : Generation) : Prop :=
  tree.isDirectory o.dir = true ∧ ∃ config, loadConfig o tree = .ok config ∧
    (Generator.ofConfig o.dir config).generate tree = .ok g

theorem Generates.unique (h : Generates o tree g) (h' : Generates o tree g') : g' = g := by
  obtain ⟨-, config, hconfig, hgenerate⟩ := h
  obtain ⟨-, config', hconfig', hgenerate'⟩ := h'
  obtain rfl : config' = config := Except.ok.inj (hconfig'.symm.trans hconfig)
  exact Except.ok.inj (hgenerate'.symm.trans hgenerate)

/-- Whether the output is written, or stands there already if it is only compared. -/
def Delivers (o : Options) (g : Generation) (tree tree' : Tree) : Prop :=
  if o.check then tree.lookup g.output = .ok (.file (.text g.source)) ∧ tree' = tree
  else g.write tree = (tree', .ok ())

/-- Whether a report is stored, if one is wanted. -/
def Stores (o : Options) (timestamp : Text) (r : Report) (tree tree' : Tree) : Prop :=
  match o.report with
  | none => tree' = tree
  | some path => tree.write path (.text (r.stored timestamp)) = .ok tree'

/-! ## Runs that succeed -/

/-- Whether a stage goes through, with a tree and a result. -/
def Stage.Ends {α : Type} (s : Stage α) (tree : Tree) (a : α) : Prop :=
  s.result = .ok a ∧ s.tree = tree

/-- Two stages in a row go through if the second does from where the first ends. -/
theorem Stage.ends_andThen_iff {α β : Type} {s : Stage α} {next : Tree → α → Stage β} {b : β} :
    (s.andThen next).Ends tree b ↔ ∃ tree' a, s.Ends tree' a ∧ (next tree' a).Ends tree b := by
  rw [andThen, Ends]
  cases hresult : s.result with
  | error e => simp [Ends, hresult]
  | ok a => simp [Ends, hresult, and_assoc]

theorem storeReport_ends_iff :
    (storeReport o timestamp tree r).Ends stored r' ↔
      r' = r ∧ Stores o timestamp r tree stored := by
  rw [storeReport, Stage.Ends, Stores]
  cases o.report with
  | none => simp [eq_comm]
  | some path =>
      dsimp only
      cases tree.write path (.text (r.stored timestamp)) with
      | error e => simp
      | ok tree' => simp [eq_comm]

/-- A run goes through if the generation does and the report is stored. -/
theorem stages_ends_iff : (stages o timestamp tree).Ends stored r ↔
    tree.isDirectory o.dir = true ∧ ∃ config, loadConfig o tree = .ok config ∧
      ∃ written, (generate o config tree).Ends written r ∧
        Stores o timestamp r written stored := by
  rw [stages]
  cases tree.isDirectory o.dir with
  | false => simp [Stage.Ends]
  | true =>
      cases loadConfig o tree with
      | error e => simp [Stage.Ends]
      | ok config =>
          have hdialect : ∀ tree' (u : Unit), Stage.Ends
              ⟨tree, ["Using dialect: " ++ config.dialect.title], .ok ()⟩ tree' u ↔
                tree' = tree := by
            simp [Stage.Ends, eq_comm]
          simp only [if_true, Stage.ends_andThen_iff, hdialect, storeReport_ends_iff]
          constructor
          · rintro ⟨written, r', ⟨tree', -, rfl, hgenerate⟩, rfl, hstores⟩
            exact ⟨trivial, config, rfl, written, hgenerate, hstores⟩
          · rintro ⟨-, config', hconfig, written, hgenerate, hstores⟩
            cases hconfig
            exact ⟨written, r, ⟨tree, (), rfl, hgenerate⟩, rfl, hstores⟩

theorem writeOutput_ends_iff :
    (writeOutput g tree).Ends written r ↔ g.write tree = (written, .ok ()) ∧ r = g.report := by
  rw [writeOutput]
  rcases g.write tree with ⟨tree', e | ⟨⟩⟩
  · simp [Stage.Ends]
  · simp [Stage.Ends, and_comm, eq_comm]

/-- A comparison without an error finds the output up to date. -/
theorem compareOutput_ends_iff (h : g.report.hasErrors = false) (hsource : g.source ≠ []) :
    ((compareOutput g tree).Ends written r ∧ r.hasErrors = false) ↔
      (tree.lookup g.output = .ok (.file (.text g.source)) ∧ written = tree) ∧ r = g.report := by
  rw [← Generation.isUpToDate_eq_true_iff hsource, compareOutput]
  rcases g.isUpToDate tree with e | (_ | _)
  · simp [Stage.Ends]
  · have herrors : (g.report.addDiagnostic (outOfDate g.output)).hasErrors = true :=
      Report.hasErrors_addDiagnostic rfl
    refine iff_of_false ?_ (by simp)
    rintro ⟨⟨hresult, -⟩, hr⟩
    cases hresult
    rw [herrors] at hr
    cases hr
  · constructor
    · rintro ⟨⟨hresult, rfl⟩, -⟩
      cases hresult
      exact ⟨⟨rfl, rfl⟩, rfl⟩
    · rintro ⟨⟨-, rfl⟩, rfl⟩
      exact ⟨⟨rfl, rfl⟩, h⟩

/-- A generation goes through without an error if the output is delivered. -/
theorem generate_ends_iff :
    ((generate o config tree).Ends written r ∧ r.hasErrors = false) ↔
      ∃ g, (Generator.ofConfig o.dir config).generate tree = .ok g ∧ Delivers o g tree written ∧
        r = g.report := by
  rw [generate]
  cases hgenerate : (Generator.ofConfig o.dir config).generate tree with
  | error e =>
      have herrors : (Report.ofDiagnostics [e.toDiagnostic]).hasErrors = true :=
        Report.hasErrors_addDiagnostic e.severity_toDiagnostic
      refine iff_of_false ?_ nofun
      rintro ⟨⟨hresult, -⟩, hr⟩
      cases hresult
      rw [herrors] at hr
      cases hr
  | ok g =>
      have hreport := Generator.hasErrors_report_of_generate hgenerate
      simp only [Except.ok.injEq, exists_eq_left', Delivers]
      cases o.check with
      | true => exact compareOutput_ends_iff hreport (Generator.source_ne_nil hgenerate)
      | false =>
          simp only [Bool.false_eq_true, if_false, writeOutput_ends_iff]
          constructor
          · exact fun h => h.1
          · rintro ⟨hwrite, rfl⟩
            exact ⟨⟨hwrite, rfl⟩, hreport⟩

theorem exitCode_conclude_eq_zero_iff {s : Stage Report} :
    (conclude o s).exitCode = 0 ↔ ∃ r, s.result = .ok r ∧ r.hasErrors = false := by
  rw [conclude]
  cases s.result with
  | error e => simp
  | ok r => cases hr : r.hasErrors <;> simp [hr]

/-- **A run succeeds** if it generates, the output is delivered, and the report is stored. -/
theorem exitCode_stages_eq_zero_iff :
    ((conclude o (stages o timestamp tree)).exitCode = 0 ∧
        (stages o timestamp tree).tree = stored) ↔
      ∃ g written, Generates o tree g ∧ Delivers o g tree written ∧
        Stores o timestamp g.report written stored := by
  have hends : ((conclude o (stages o timestamp tree)).exitCode = 0 ∧
      (stages o timestamp tree).tree = stored) ↔
        ∃ r, (stages o timestamp tree).Ends stored r ∧ r.hasErrors = false := by
    simp only [exitCode_conclude_eq_zero_iff, Stage.Ends]
    constructor
    · rintro ⟨⟨r, hresult, hr⟩, htree⟩
      exact ⟨r, ⟨hresult, htree⟩, hr⟩
    · rintro ⟨r, ⟨hresult, htree⟩, hr⟩
      exact ⟨⟨r, hresult, hr⟩, htree⟩
  simp only [hends, stages_ends_iff]
  constructor
  · rintro ⟨r, ⟨hdir, config, hconfig, written, hends, hstores⟩, hr⟩
    obtain ⟨g, hgenerate, hdelivers, rfl⟩ := generate_ends_iff.1 ⟨hends, hr⟩
    exact ⟨g, written, ⟨hdir, config, hconfig, hgenerate⟩, hdelivers, hstores⟩
  · rintro ⟨g, written, ⟨hdir, config, hconfig, hgenerate⟩, hdelivers, hstores⟩
    obtain ⟨hends, hr⟩ := generate_ends_iff.2 ⟨g, hgenerate, hdelivers, rfl⟩
    exact ⟨g.report, ⟨hdir, config, hconfig, written, hends, hstores⟩, hr⟩

/-! ## The tree after a run -/

theorem Stage.tree_andThen {α β : Type} (s : Stage α) (next : Tree → α → Stage β) :
    (s.andThen next).tree = s.tree ∨ ∃ a, (s.andThen next).tree = (next s.tree a).tree := by
  rw [andThen]
  cases s.result with
  | error e => exact .inl rfl
  | ok a => exact .inr ⟨a, rfl⟩

theorem tree_compareOutput : (compareOutput g tree).tree = tree := by
  rw [compareOutput]
  split <;> rfl

theorem tree_writeOutput : (writeOutput g tree).tree = (g.write tree).1 := by
  rw [writeOutput]
  split <;> next heq => rw [heq]

/-- A generation writes the generated file, or it changes nothing. -/
theorem tree_generate : (generate o config tree).tree = tree ∨
    o.check = false ∧ ∃ g, (Generator.ofConfig o.dir config).generate tree = .ok g ∧
      (generate o config tree).tree = (g.write tree).1 := by
  rw [generate]
  split
  · exact .inl rfl
  · next g hgenerate =>
    cases o.check with
    | true => exact .inl tree_compareOutput
    | false => exact .inr ⟨rfl, g, hgenerate, tree_writeOutput⟩

/-- Whether a tree is another in which the generated file may have been written. -/
def MayWrite (o : Options) (tree tree' : Tree) : Prop :=
  tree' = tree ∨ o.check = false ∧ ∃ g, Generates o tree g ∧ tree' = (g.write tree).1

/-- Whether a tree is another in which the report may have been stored. -/
def MayStore (o : Options) (tree tree' : Tree) : Prop :=
  tree' = tree ∨ ∃ path content, o.report = some path ∧ tree.write path content = .ok tree'

theorem MayWrite.keeps (h : MayWrite o tree written) : Tree.Keeps tree written := by
  rcases h with rfl | ⟨-, g, -, rfl⟩
  · exact .refl written
  · exact g.keeps_write

theorem MayWrite.closed (h : MayWrite o tree written) (hclosed : tree.Closed) :
    written.Closed := by
  rcases h with rfl | ⟨-, g, -, rfl⟩
  · exact hclosed
  · exact g.closed_write hclosed

theorem MayStore.keeps (h : MayStore o written stored) : Tree.Keeps written stored := by
  rcases h with rfl | ⟨path, content, -, hwrite⟩
  · exact .refl stored
  · exact .write hwrite

theorem MayStore.closed (h : MayStore o written stored) (hclosed : written.Closed) :
    stored.Closed := by
  rcases h with rfl | ⟨path, content, -, hwrite⟩
  · exact hclosed
  · exact hclosed.write hwrite

/-- Storing the report changes the place of the report and no other. -/
theorem MayStore.get?_eq (h : MayStore o written stored)
    (hplace : ∀ path ∈ o.report, written.locate path ≠ .ok place) :
    stored.get? place = written.get? place := by
  rcases h with rfl | ⟨path, content, hpath, hwrite⟩
  · rfl
  · exact Tree.get?_write hwrite (hplace path hpath)

theorem mayStore_storeReport : MayStore o tree (storeReport o timestamp tree r).tree := by
  rw [storeReport]
  split
  · exact .inl rfl
  · next path hpath =>
    split
    · exact .inl rfl
    · next hwrite => exact .inr ⟨path, _, hpath, hwrite⟩

/-- What a run does to the tree: it writes what it generates, unless it compares only, and it stores
a report where one is wanted. -/
theorem tree_stages (o : Options) (timestamp : Text) (tree : Tree) :
    ∃ written, MayWrite o tree written ∧ MayStore o written (stages o timestamp tree).tree := by
  rw [stages]
  split
  · next hdir =>
    split
    · exact ⟨tree, .inl rfl, .inl rfl⟩
    · next config hconfig =>
      refine ⟨(generate o config tree).tree, ?_, ?_⟩
      · refine tree_generate.imp_right ?_
        rintro ⟨hcheck, g, hgenerate, hwritten⟩
        exact ⟨hcheck, g, ⟨hdir, config, hconfig, hgenerate⟩, hwritten⟩
      · obtain hbroken | ⟨r, hstored⟩ := Stage.tree_andThen
          (Stage.andThen ⟨tree, ["Using dialect: " ++ config.dialect.title], .ok ()⟩
            fun tree _ => generate o config tree) (storeReport o timestamp)
        · exact .inl hbroken
        · rw [hstored]
          exact mayStore_storeReport
  · exact ⟨tree, .inl rfl, .inl rfl⟩

end TwoWaySql.CommandLine

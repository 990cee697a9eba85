import TwoWaySql.Proofs.CommandLine.Stages

/-!
# Checking and writing

With `--check` a run compares the generated file where it would write it otherwise. Up to that
point the two runs are one: the other arguments are read in the same way, and configuration and
generation do not look at the flag. So the check succeeds exactly if the run without it would, and
would leave every file as it is.

## Main definitions

* `CommandLine.pieces` — the options and the other arguments of a command line.
-/
namespace TwoWaySql

namespace CommandLine

variable {arguments : List Text} {argument : Argument} {pending : Pending} {o : Options}
  {tree : Tree} {g : Generation}

/-! ## Reading the arguments -/

/-- The pieces that arguments are read as. -/
def pieces (arguments : List Text) : List Argument := (readAll arguments.length arguments).1

/-- A flag in front of the other arguments is read before them. -/
theorem readAll_check (fuel : Nat) (arguments : List Text) :
    readAll (fuel + 1) ("--check" :: arguments) =
      before [.flag .check] (readAll fuel arguments) := by
  rfl

/-- The command with its output compared. -/
def checked : Command → Command
  | .generate o => .generate { o with check := true }
  | other => other

/-- What is asked for so far, with the output compared. -/
def Pending.checked (pending : Pending) : Pending :=
  { pending with options := { pending.options with check := true } }

/-- An argument other than the flag is taken alike with the flag and without. -/
theorem take_checked (h : argument ≠ .flag .check) :
    take pending.checked argument = (take pending argument).map Pending.checked := by
  cases argument with
  | positional t =>
      simp only [take, Pending.checked]
      cases setOnce pending.dir (path? t) <;> rfl
  | flag s =>
      cases s with
      | check => exact absurd rfl h
      | verbose =>
          by_cases hverbose : pending.options.verbose = true <;>
            simp [take, Pending.checked, hverbose]
      | _ => rfl
  | valued s t =>
      cases s with
      | config =>
          simp only [take, Pending.checked]
          cases setOnce pending.options.config (path? t) <;> rfl
      | output =>
          simp only [take, Pending.checked]
          cases setOnce pending.options.output (path? t) <;> rfl
      | dialect =>
          simp only [take, Pending.checked]
          cases setOnce pending.options.dialect (Dialect.ofName? t) <;> rfl
      | report =>
          simp only [take, Pending.checked]
          cases setOnce pending.options.report (path? t) <;> rfl
      | _ => rfl

theorem takeAll_cons {complete : Bool} {rest : List Argument} (hhelp : argument ≠ .flag .help)
    (hversion : argument ≠ .flag .version) : takeAll complete pending (argument :: rest) =
      match take pending argument with
      | some next => takeAll complete next rest
      | none => .refused :=
  takeAll.eq_5 complete pending argument rest hhelp hversion

theorem takeAll_checked {complete : Bool} {arguments : List Argument}
    (h : .flag .check ∉ arguments) : takeAll complete pending.checked arguments =
      checked (takeAll complete pending arguments) := by
  induction arguments generalizing pending with
  | nil =>
      simp only [takeAll, Pending.checked]
      cases complete <;> cases pending.dir <;> rfl
  | cons argument rest ih =>
      have hrest : .flag .check ∉ rest := fun hmem => h (List.mem_cons_of_mem argument hmem)
      have hne : argument ≠ .flag .check := fun heq => h (heq ▸ List.mem_cons_self)
      by_cases hhelp : argument = .flag .help
      · rw [hhelp]
        rfl
      by_cases hversion : argument = .flag .version
      · rw [hversion]
        rfl
      rw [takeAll_cons hhelp hversion, takeAll_cons hhelp hversion, take_checked hne]
      cases take pending argument with
      | none => rfl
      | some next => exact ih hrest

/-- With the flag in front, the command is the same one with its output compared. -/
theorem command_check (h : .flag .check ∉ pieces arguments) :
    command ("--check" :: arguments) = checked (command arguments) := by
  have hread : readAll (arguments.length + 1) ("--check" :: arguments) =
      before [.flag .check] (readAll arguments.length arguments) :=
    readAll_check arguments.length arguments
  rw [command, command, List.length_cons, hread]
  exact takeAll_checked h

/-- Any other argument leaves the flag and the report as they are. -/
theorem take_of_ne (hcheck : argument ≠ .flag .check) (hreport : ∀ t, argument ≠ .valued .report t)
    {next : Pending} (h : take pending argument = some next) :
    next.options.check = pending.options.check ∧ next.options.report = pending.options.report := by
  cases argument with
  | positional t =>
      obtain ⟨_, -, hnext⟩ := Option.bind_eq_some_iff.1 h
      cases hnext
      exact ⟨rfl, rfl⟩
  | flag s =>
      cases s with
      | check => exact absurd rfl hcheck
      | verbose =>
          simp only [take] at h
          split at h
          · cases h
          · cases h
            exact ⟨rfl, rfl⟩
      | _ => cases h
  | valued s t =>
      cases s with
      | config | output | dialect =>
          obtain ⟨_, -, hnext⟩ := Option.bind_eq_some_iff.1 h
          cases hnext
          exact ⟨rfl, rfl⟩
      | report => exact absurd rfl (hreport t)
      | _ => cases h

theorem takeAll_of_ne {complete : Bool} {arguments : List Argument}
    (hcheck : .flag .check ∉ arguments) (hreport : ∀ t, .valued .report t ∉ arguments)
    (h : takeAll complete pending arguments = .generate o) :
    o.check = pending.options.check ∧ o.report = pending.options.report := by
  induction arguments generalizing pending with
  | nil =>
      simp only [takeAll] at h
      split at h
      · cases h
        exact ⟨rfl, rfl⟩
      · cases h
  | cons argument rest ih =>
      by_cases hhelp : argument = .flag .help
      · rw [hhelp] at h
        cases h
      by_cases hversion : argument = .flag .version
      · rw [hversion] at h
        cases h
      rw [takeAll_cons hhelp hversion] at h
      split at h
      · next next hnext =>
        have htake := take_of_ne (fun heq => hcheck (heq ▸ List.mem_cons_self))
          (fun t heq => hreport t (heq ▸ List.mem_cons_self)) hnext
        have hrest := ih (fun hmem => hcheck (List.mem_cons_of_mem argument hmem))
          (fun t hmem => hreport t (List.mem_cons_of_mem argument hmem)) h
        exact ⟨hrest.1.trans htake.1, hrest.2.trans htake.2⟩
      · cases h

/-! ## The tree of a run -/

/-- A run leaves a closed tree closed. -/
theorem closed_run (h : tree.Closed) (arguments : List Text) (timestamp : Text) :
    (run arguments timestamp tree).2.Closed := by
  rw [run]
  split
  · exact h
  · exact h
  · exact h
  · next o _ =>
    obtain ⟨written, hwritten, hstored⟩ := tree_stages o timestamp tree
    exact hstored.closed (hwritten.closed h)

/-! ## The agreement -/

/-- A run that does not succeed, though its arguments are right, ends with 1. -/
theorem exitCode_conclude_of_ne_zero {s : Stage Report} (h : (conclude o s).exitCode ≠ 0) :
    (conclude o s).exitCode = 1 := by
  rw [conclude] at h ⊢
  cases hresult : s.result with
  | error e => rfl
  | ok r =>
      cases hr : r.hasErrors with
      | true => simp [hr]
      | false => simp [hresult, hr] at h

/-- A run that compares succeeds if what is generated stands where it would be written. -/
theorem exitCode_compare_iff (hreport : o.report = none) (timestamp : Text) (tree : Tree) :
    (conclude { o with check := true } (stages { o with check := true } timestamp tree)).exitCode =
        0 ↔
      ∃ g, Generates o tree g ∧ tree.lookup g.output = .ok (.file (.text g.source)) := by
  constructor
  · intro hcode
    obtain ⟨g, written, hg, hdelivers, -⟩ := exitCode_stages_eq_zero_iff.1 ⟨hcode, rfl⟩
    exact ⟨g, hg, hdelivers.1⟩
  · rintro ⟨g, hg, hlookup⟩
    have hdelivers : Delivers { o with check := true } g tree tree := by
      simp [Delivers, hlookup]
    have hstores : Stores { o with check := true } timestamp g.report tree tree := by
      simp [Stores, hreport]
    exact ((exitCode_stages_eq_zero_iff (o := { o with check := true })).2
      ⟨g, tree, hg, hdelivers, hstores⟩).1

/-- A run that writes succeeds if what is generated can be written; it leaves the tree with it. -/
theorem exitCode_write_iff (hcheck : o.check = false) (hreport : o.report = none)
    (timestamp : Text) (tree : Tree) (P : Tree → Prop) :
    ((conclude o (stages o timestamp tree)).exitCode = 0 ∧ P (stages o timestamp tree).tree) ↔
      ∃ g tree', Generates o tree g ∧ g.write tree = (tree', .ok ()) ∧ P tree' := by
  have hdelivers : ∀ g tree', Delivers o g tree tree' ↔ g.write tree = (tree', .ok ()) := by
    simp [Delivers, hcheck]
  constructor
  · rintro ⟨hcode, hP⟩
    obtain ⟨g, written, hg, hdelivered, hstored⟩ := exitCode_stages_eq_zero_iff.1 ⟨hcode, rfl⟩
    rw [Stores, hreport] at hstored
    exact ⟨g, written, hg, (hdelivers g written).1 hdelivered, hstored ▸ hP⟩
  · rintro ⟨g, tree', hg, hwrite, hP⟩
    have hstores : Stores o timestamp g.report tree' tree' := by simp [Stores, hreport]
    obtain ⟨hcode, htree⟩ := exitCode_stages_eq_zero_iff.2
      ⟨g, tree', hg, (hdelivers g tree').2 hwrite, hstores⟩
    exact ⟨hcode, htree ▸ hP⟩

/-- Options whose output is compared succeed exactly if they would succeed with the output written
and change nothing, and the output does not lead to a sink. -/
theorem exitCode_stages_check_iff (hclosed : tree.Closed) (hcheck : o.check = false)
    (hreport : o.report = none) (timestamp : Text) :
    (conclude { o with check := true } (stages { o with check := true } timestamp tree)).exitCode =
        0 ↔
      (¬∃ g, Generates o tree g ∧ tree.lookup g.output = .ok .sink) ∧
        (conclude o (stages o timestamp tree)).exitCode = 0 ∧
        ∀ place, (stages o timestamp tree).tree.get? place = tree.get? place := by
  rw [exitCode_compare_iff hreport, exitCode_write_iff hcheck hreport timestamp tree
    fun tree' => ∀ place, tree'.get? place = tree.get? place]
  constructor
  · rintro ⟨g, hg, hlookup⟩
    obtain ⟨hsink, tree', hwrite, hsame⟩ := (Generation.lookup_output_iff hclosed).1 hlookup
    refine ⟨?_, g, tree', hg, hwrite, hsame⟩
    rintro ⟨g', hg', hsink'⟩
    rw [hg.unique hg'] at hsink'
    exact hsink hsink'
  · rintro ⟨hsink, g, tree', hg, hwrite, hsame⟩
    exact ⟨g, hg, (Generation.lookup_output_iff hclosed).2
      ⟨fun hlookup => hsink ⟨g, hg, hlookup⟩, tree', hwrite, hsame⟩⟩

/-- Whether arguments ask for an output that goes into a sink. -/
def Discards (arguments : List Text) (tree : Tree) : Prop :=
  ∃ o g, command arguments = .generate o ∧ Generates o tree g ∧ tree.lookup g.output = .ok .sink

theorem discards_iff (h : command arguments = .generate o) : Discards arguments tree ↔
    ∃ g, Generates o tree g ∧ tree.lookup g.output = .ok .sink := by
  simp [Discards, h]

/-- **Checking agrees with writing**, unless the output goes into a sink, which keeps nothing of it.
For arguments without `--check` and `--report`, the run with `--check` in front succeeds exactly if
the output does not lead to a sink, and the run without the flag succeeds and leaves what stands in
the tree as it was. The tree is to be closed: a fresh one is, and by `closed_run` every run keeps it
so. -/
theorem exitCode_check_iff (hclosed : tree.Closed) (hcheck : .flag .check ∉ pieces arguments)
    (hreport : ∀ path, .valued .report path ∉ pieces arguments) (timestamp : Text) :
    (run ("--check" :: arguments) timestamp tree).1.exitCode = 0 ↔
      ¬Discards arguments tree ∧ (run arguments timestamp tree).1.exitCode = 0 ∧
        ∀ place, (run arguments timestamp tree).2.get? place = tree.get? place := by
  rw [run, run, command_check hcheck]
  cases hcommand : command arguments with
  | generate o =>
      obtain ⟨ho, hnone⟩ := takeAll_of_ne hcheck hreport hcommand
      rw [discards_iff hcommand]
      exact exitCode_stages_check_iff hclosed ho hnone timestamp
  | help => simp [checked, Discards, hcommand]
  | version => simp [checked, Discards, hcommand]
  | refused => simp [checked]

/-! ## A template directory and a null device -/

/-- A template with a field. -/
def sampleText : Text := "SELECT * FROM users WHERE id = /** int .id **/"

/-- A directory with the template, and a null device. -/
def sampleTree : Tree where
  cwd := []
  entries := [(["q"], .directory), (["q", "find.sql"], .file (.text sampleText)),
    (["dev"], .directory), (["dev", "null"], .sink)]
  nodup := by decide

/-- The directory is generated for, with an output of its own. -/
def sampleOptions (output : Path) : Options :=
  ⟨⟨"q"⟩, none, some output, none, false, none, false⟩

def sampleGenerator (output : Path) : Generator :=
  .ofConfig ⟨"q"⟩ { Config.usualFor ⟨"q"⟩ with output }

def sampleRecord : Record :=
  ⟨"FindQueryElem", "find.sql", "FIND_QUERY_ELEM_SQL", [⟨"id", "id", .integer⟩]⟩

/-- What is generated for the directory. -/
def sampleGeneration (output : Path) : Generation where
  output := (sampleGenerator output).config.outputPath
  source := Source.ofRecords ((sampleGenerator output).sourceOptions ⟨"/"⟩) [sampleRecord]
  templates := [⟨"q/find.sql"⟩]
  records := [sampleRecord]
  diagnostics := []

theorem ofTemplate_sample (output : Path) :
    (sampleGenerator output).ofTemplate "find.sql" (.text sampleText) = .ok (sampleRecord, []) := by
  have hrecord : Record.ofTemplate "find.sql" (FileName.stem "find.sql") sampleText "QueryElem" =
      .ok (sampleRecord, []) := by decide +kernel
  have hunstripped : unstripped sampleText = [] := by decide +kernel
  have hsuffix : (sampleGenerator output).config.structSuffix = "QueryElem" := rfl
  simp only [Generator.ofTemplate, hsuffix, hrecord, hunstripped]
  rfl

/-- Where the directory has the template alone, that is what is generated. -/
theorem generates_sample (output : Path) (hcwd : tree.cwd = [])
    (hdir : tree.isDirectory ⟨"q"⟩ = true)
    (hload : loadConfig (sampleOptions output) tree = .ok (sampleGenerator output).config)
    (htemplates : (sampleGenerator output).templates tree = .ok [("find.sql", .text sampleText)]) :
    Generates (sampleOptions output) tree (sampleGeneration output) := by
  have hrun : [(("find.sql" : Text), Content.text sampleText)].foldlM
      (sampleGenerator output).add ([], []) = .ok ([sampleRecord], []) := by
    rw [List.foldlM_cons, Generator.add, ofTemplate_sample]
    rfl
  have hcwdPath : tree.cwdPath = ⟨"/"⟩ := by
    rw [Tree.cwdPath, hcwd]
    rfl
  refine ⟨hdir, _, hload, Generator.generate_eq_ok_iff.2 ⟨_, _, _, htemplates, hrun, ?_⟩⟩
  rw [hcwdPath]
  rfl

theorem generates_sampleTree (output : Path) :
    Generates (sampleOptions output) sampleTree (sampleGeneration output) := by
  have hplace : sampleTree.locate ⟨"q"⟩ = .ok ["q"] := by decide
  exact generates_sample output rfl (by decide) rfl
    (Generator.templates_eq_ok_of_perm hplace (by decide) (by decide) (by simp))

/-- The arguments that ask for an output ask for nothing else. -/
theorem pieces_sample {output : Text}
    (h : pieces ["q", "--output", output] = [.positional "q", .valued .output output]) :
    .flag .check ∉ pieces ["q", "--output", output] ∧
      ∀ path, .valued .report path ∉ pieces ["q", "--output", output] := by
  rw [h]
  simp

/-- The directory with what is generated for it in a file beside the template. -/
def writtenTree : Tree :=
  sampleTree.set ["q", "out.rs"] (.file (.text (sampleGeneration ⟨"out.rs"⟩).source))

theorem generates_writtenTree :
    Generates (sampleOptions ⟨"out.rs"⟩) writtenTree (sampleGeneration ⟨"out.rs"⟩) := by
  have hplace : writtenTree.locate ⟨"q"⟩ = .ok ["q"] := by decide
  exact generates_sample _ rfl (by decide) (by decide)
    (Generator.templates_eq_ok_of_perm hplace (by decide) (by decide) (by simp))

/-- The generated file stands beside its template, so checking succeeds and writing changes
nothing. -/
theorem exitCode_check_iff_current : writtenTree.Closed ∧
    .flag .check ∉ pieces ["q", "--output", "out.rs"] ∧
    (∀ path, .valued .report path ∉ pieces ["q", "--output", "out.rs"]) ∧
    (run ["--check", "q", "--output", "out.rs"] "T" writtenTree).1.exitCode = 0 ∧
    ¬Discards ["q", "--output", "out.rs"] writtenTree ∧
    (run ["q", "--output", "out.rs"] "T" writtenTree).1.exitCode = 0 ∧
    ∀ place, (run ["q", "--output", "out.rs"] "T" writtenTree).2.get? place =
      writtenTree.get? place := by
  have hclosed : writtenTree.Closed := by decide
  obtain ⟨hcheck, hreport⟩ := @pieces_sample "out.rs" (by decide)
  have hcommand : command ["--check", "q", "--output", "out.rs"] =
      .generate { sampleOptions ⟨"out.rs"⟩ with check := true } := by decide
  have hcode : (run ["--check", "q", "--output", "out.rs"] "T" writtenTree).1.exitCode = 0 := by
    rw [run, hcommand]
    exact (exitCode_compare_iff rfl "T" writtenTree).2 ⟨_, generates_writtenTree, by decide +kernel⟩
  exact ⟨hclosed, hcheck, hreport, hcode, (exitCode_check_iff hclosed hcheck hreport "T").1 hcode⟩

/-- A null device takes the output, so that writing succeeds and changes nothing. But it does not
have it afterwards, and so the check fails. -/
theorem exitCode_check_null : sampleTree.Closed ∧
    .flag .check ∉ pieces ["q", "--output", "/dev/null"] ∧
    (∀ path, .valued .report path ∉ pieces ["q", "--output", "/dev/null"]) ∧
    (run ["--check", "q", "--output", "/dev/null"] "T" sampleTree).1.exitCode = 1 ∧
    (run ["q", "--output", "/dev/null"] "T" sampleTree).1.exitCode = 0 ∧
    ∀ place, (run ["q", "--output", "/dev/null"] "T" sampleTree).2.get? place =
      sampleTree.get? place := by
  obtain ⟨hcheck, hreport⟩ := @pieces_sample "/dev/null" (by decide)
  have hcommand : command ["q", "--output", "/dev/null"] =
      .generate (sampleOptions ⟨"/dev/null"⟩) := by decide
  have hcommand' : command ["--check", "q", "--output", "/dev/null"] =
      .generate { sampleOptions ⟨"/dev/null"⟩ with check := true } := by decide
  have hg := generates_sampleTree ⟨"/dev/null"⟩
  refine ⟨by decide, hcheck, hreport, ?_, ?_⟩
  · rw [run, hcommand']
    refine exitCode_conclude_of_ne_zero fun hzero => ?_
    obtain ⟨g, hg', hlookup⟩ := (exitCode_compare_iff rfl "T" sampleTree).1 hzero
    have hsink : sampleTree.lookup (sampleGeneration ⟨"/dev/null"⟩).output = .ok .sink := by
      decide
    rw [hg.unique hg', hsink] at hlookup
    cases hlookup
  · rw [run, hcommand]
    refine (exitCode_write_iff rfl rfl "T" sampleTree
      fun tree' => ∀ place, tree'.get? place = sampleTree.get? place).2
        ⟨_, _, hg, ?_, fun _ => rfl⟩
    decide

end CommandLine

end TwoWaySql

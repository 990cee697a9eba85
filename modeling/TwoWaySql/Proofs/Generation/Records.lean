import TwoWaySql.Proofs.Generation.Templates
import TwoWaySql.Proofs.Record.Fields

/-!
# The records of a directory

Each template stands for itself: what it gives depends on its name and content alone. The run over
the templates goes on as long as each one gives a record whose name is new. It stops at the first
that does not, and the templates behind it are not read.

## Main definitions

* `Generator.Gives`, `Generator.Refuses` — what a template comes to on its own.
* `Generator.Records` — the records of several templates, all names different.
-/
namespace TwoWaySql.Generator

variable {g : Generator} {tree tree' : Tree} {t : Text × Content} {ts : List (Text × Content)}
  {r r' : Record} {rs rs' : List Record} {ds : List Diagnostic} {e : GenerationError}
  {generation : Generation}

/-! ## One template -/

/-- Whether a template is text that gives a record. -/
def Gives (g : Generator) (t : Text × Content) (r : Record) : Prop :=
  ∃ source unknown, t.2 = .text source ∧
    Record.ofTemplate t.1 (FileName.stem t.1) source g.config.structSuffix = .ok (r, unknown)

/-- Whether a template fails by itself: it is no text, or it gives no record. -/
def Refuses (g : Generator) (t : Text × Content) (e : GenerationError) : Prop :=
  (∃ bytes, t.2 = .binary bytes ∧ e = .file (g.templatePath t.1) .notText) ∨
    ∃ source error, t.2 = .text source ∧
      Record.ofTemplate t.1 (FileName.stem t.1) source g.config.structSuffix = .error error ∧
      e = .record error

theorem exists_ofTemplate_eq_ok_iff :
    (∃ found, g.ofTemplate t.1 t.2 = .ok (r, found)) ↔ g.Gives t r := by
  obtain ⟨name, content⟩ := t
  cases content with
  | binary bytes => simp [ofTemplate, Gives]
  | text source =>
      cases hrecord : Record.ofTemplate name (FileName.stem name) source g.config.structSuffix with
      | error error => simp [ofTemplate, Gives, hrecord]
      | ok found =>
          obtain ⟨record, unknown⟩ := found
          simp [ofTemplate, Gives, hrecord]

theorem ofTemplate_eq_error_iff : g.ofTemplate t.1 t.2 = .error e ↔ g.Refuses t e := by
  obtain ⟨name, content⟩ := t
  cases content with
  | binary bytes => simp [ofTemplate, Refuses, eq_comm (a := e)]
  | text source =>
      cases hrecord : Record.ofTemplate name (FileName.stem name) source g.config.structSuffix with
      | error error => simp [ofTemplate, Refuses, hrecord, eq_comm (a := e)]
      | ok found => simp [ofTemplate, Refuses, hrecord]

theorem Gives.unique (h : g.Gives t r) (h' : g.Gives t r') : r' = r := by
  obtain ⟨source, unknown, hcontent, hrecord⟩ := h
  obtain ⟨source', unknown', hcontent', hrecord'⟩ := h'
  have hsource : source' = source := by simpa [hcontent'] using hcontent
  rw [hsource, hrecord] at hrecord'
  have heq : r = r' ∧ unknown = unknown' := by simpa using hrecord'
  exact heq.1.symm

/-- The record of a template names its file. -/
theorem Gives.templateFile (h : g.Gives t r) : r.templateFile = t.1 := by
  obtain ⟨source, unknown, -, hrecord⟩ := h
  exact (Record.ofTemplate_eq_ok_iff.1 hrecord).2.1

/-! ## The run over the templates -/

/-- Whether templates give the records: one for each, in their order, and no two of one name. -/
structure Records (g : Generator) (ts : List (Text × Content)) (rs : List Record) : Prop where
  /-- Each template gives the record at its place. -/
  gives : List.Forall₂ g.Gives ts rs
  /-- The names of the records are different. -/
  names : (rs.map (·.name)).Nodup

/-- The records are those that some template gives. -/
theorem mem_records_iff (h : List.Forall₂ g.Gives ts rs) : r ∈ rs ↔ ∃ t ∈ ts, g.Gives t r :=
  Key.mem_iff_of_forall₂ (fun _ _ _ hgives hgives' => hgives'.unique hgives) h

/-- The step of the run adds the record of a template if its name is new. -/
theorem exists_add_eq_ok_iff : (∃ ds', g.add (rs, ds) t = .ok (rs', ds')) ↔
    ∃ r, g.Gives t r ∧ r.name ∉ rs.map (·.name) ∧ rs' = rs ++ [r] := by
  simp only [← exists_ofTemplate_eq_ok_iff, add, Outcome.bind_eq_ok]
  constructor
  · rintro ⟨ds', ⟨r, found⟩, hrecord, hadd⟩
    cases hfind : rs.find? (·.name = r.name) with
    | some first => simp [hfind] at hadd
    | none =>
        have hrs : rs ++ [r] = rs' := by
          simp only [hfind, Outcome.pure_eq_ok, Except.ok.injEq, Prod.mk.injEq] at hadd
          exact hadd.1
        exact ⟨r, ⟨found, hrecord⟩, Key.find?_eq_none_iff.1 hfind, hrs.symm⟩
  · rintro ⟨r, ⟨found, hrecord⟩, hnew, rfl⟩
    have hfind := Key.find?_eq_none_iff.2 hnew
    exact ⟨ds ++ found, (r, found), hrecord, by simp [hfind]⟩

/-- The step of the run fails with a template that fails by itself, or whose record has the name of
an earlier one. -/
theorem add_eq_error_iff (hnames : (rs.map (·.name)).Nodup) : g.add (rs, ds) t = .error e ↔
    g.Refuses t e ∨ ∃ r, g.Gives t r ∧ ∃ first ∈ rs, first.name = r.name ∧
      e = .duplicate r.name first.templateFile t.1 := by
  simp only [← ofTemplate_eq_error_iff, ← exists_ofTemplate_eq_ok_iff, add, Outcome.bind_eq_error]
  refine or_congr_right ?_
  constructor
  · rintro ⟨⟨r, found⟩, hrecord, hadd⟩
    cases hfind : rs.find? (·.name = r.name) with
    | none => simp [hfind] at hadd
    | some first =>
        obtain ⟨hfirst, hname⟩ := (Key.find?_eq_some_iff hnames).1 hfind
        have he : GenerationError.duplicate r.name first.templateFile t.1 = e := by
          simpa [hfind] using hadd
        exact ⟨r, ⟨found, hrecord⟩, first, hfirst, hname, he.symm⟩
  · rintro ⟨r, ⟨found, hrecord⟩, first, hfirst, hname, rfl⟩
    have hfind := (Key.find?_eq_some_iff hnames).2 ⟨hfirst, hname⟩
    exact ⟨(r, found), hrecord, by simp [hfind]⟩

/-- The run over more templates ends with their records behind those there are, if no name repeats
another. -/
theorem exists_foldlM_add_eq_ok_iff (hnames : (rs.map (·.name)).Nodup) :
    (∃ ds', ts.foldlM g.add (rs, ds) = .ok (rs', ds')) ↔
      ∃ more, List.Forall₂ g.Gives ts more ∧ ((rs ++ more).map (·.name)).Nodup ∧
        rs' = rs ++ more := by
  induction ts generalizing rs ds with
  | nil => simp [hnames, eq_comm (a := rs)]
  | cons t ts ih =>
      simp only [List.foldlM_cons, Outcome.bind_eq_ok]
      constructor
      · rintro ⟨ds', ⟨rs₁, ds₁⟩, hadd, hrest⟩
        obtain ⟨r, hr, hnew, rfl⟩ := exists_add_eq_ok_iff.1 ⟨ds₁, hadd⟩
        have hnames₁ := Key.nodup_map_append_singleton_iff.2 ⟨hnames, hnew⟩
        obtain ⟨more, hmore, hnodup, rfl⟩ := (ih hnames₁).1 ⟨ds', hrest⟩
        rw [List.append_assoc, List.singleton_append] at hnodup ⊢
        exact ⟨r :: more, .cons hr hmore, hnodup, rfl⟩
      · rintro ⟨all, hall, hnodup, rfl⟩
        obtain ⟨r, more, hr, hmore, rfl⟩ := List.forall₂_cons_left_iff.1 hall
        have hassoc : rs ++ r :: more = rs ++ [r] ++ more := by simp
        rw [hassoc] at hnodup
        have hnames₁ : ((rs ++ [r]).map (·.name)).Nodup := by
          rw [List.map_append] at hnodup
          exact (List.nodup_append.1 hnodup).1
        have hnew := (Key.nodup_map_append_singleton_iff.1 hnames₁).2
        obtain ⟨ds₁, hadd⟩ := exists_add_eq_ok_iff.2 ⟨r, hr, hnew, rfl⟩
        obtain ⟨ds', hrest⟩ := (ih hnames₁).2 ⟨more, hmore, hnodup, hassoc⟩
        exact ⟨ds', (rs ++ [r], ds₁), hadd, hrest⟩

/-- The run over all templates ends with their records. -/
theorem exists_foldlM_add_nil_eq_ok_iff :
    (∃ ds, ts.foldlM g.add ([], []) = .ok (rs, ds)) ↔ g.Records ts rs := by
  rw [exists_foldlM_add_eq_ok_iff (by simp)]
  constructor
  · rintro ⟨more, hmore, hnames, rfl⟩
    exact ⟨hmore, hnames⟩
  · rintro ⟨hgives, hnames⟩
    exact ⟨rs, hgives, hnames, rfl⟩

/-- The run over all templates fails at the first template that fails by itself or has a record of
an earlier one's name. -/
theorem foldlM_add_nil_eq_error_iff : ts.foldlM g.add ([], []) = .error e ↔
    ∃ before t after rs, ts = before ++ t :: after ∧ g.Records before rs ∧
      (g.Refuses t e ∨ ∃ r, g.Gives t r ∧ ∃ first ∈ rs, first.name = r.name ∧
        e = .duplicate r.name first.templateFile t.1) := by
  rw [Outcome.foldlM_eq_error]
  constructor
  · rintro ⟨before, t, after, ⟨rs, ds⟩, rfl, hbefore, hadd⟩
    have hrecords := exists_foldlM_add_nil_eq_ok_iff.1 ⟨ds, hbefore⟩
    exact ⟨before, t, after, rs, rfl, hrecords, (add_eq_error_iff hrecords.names).1 hadd⟩
  · rintro ⟨before, t, after, rs, rfl, hrecords, hfails⟩
    obtain ⟨ds, hbefore⟩ := exists_foldlM_add_nil_eq_ok_iff.2 hrecords
    exact ⟨before, t, after, (rs, ds), rfl, hbefore, (add_eq_error_iff hrecords.names).2 hfails⟩

/-! ## The generation -/

theorem generate_eq_ok_iff : g.generate tree = .ok generation ↔
    ∃ ts rs ds, g.templates tree = .ok ts ∧ ts.foldlM g.add ([], []) = .ok (rs, ds) ∧
      generation = {
        output := g.config.outputPath
        source := Source.ofRecords (g.sourceOptions tree.cwdPath) rs
        templates := ts.map fun t => g.templatePath t.1
        records := rs
        diagnostics := ds } := by
  simp [generate, Outcome.bind_eq_ok, eq_comm (a := generation)]

/-- What is generated starts with a comment, whatever the templates are. -/
theorem exists_source_eq_cons (h : g.generate tree = .ok generation) :
    ∃ t, generation.source = '/' :: t := by
  obtain ⟨ts, rs, ds, -, -, rfl⟩ := generate_eq_ok_iff.1 h
  exact ⟨_, rfl⟩

theorem source_ne_nil (h : g.generate tree = .ok generation) : generation.source ≠ [] := by
  obtain ⟨t, ht⟩ := exists_source_eq_cons h
  simp [ht]

/-- What is generated has the records of the templates. -/
theorem exists_records_of_generate (h : g.generate tree = .ok generation) :
    ∃ ts, g.templates tree = .ok ts ∧ g.Records ts generation.records ∧
      generation.templates = ts.map fun t => g.templatePath t.1 := by
  obtain ⟨ts, rs, ds, hts, hrun, rfl⟩ := generate_eq_ok_iff.1 h
  exact ⟨ts, hts, exists_foldlM_add_nil_eq_ok_iff.1 ⟨ds, hrun⟩, rfl⟩

theorem exists_generate_iff (hts : g.templates tree = .ok ts) :
    (∃ generation, g.generate tree = .ok generation) ↔ ∃ rs, g.Records ts rs := by
  constructor
  · rintro ⟨generation, h⟩
    obtain ⟨ts', hts', hrecords, -⟩ := exists_records_of_generate h
    rw [hts, Except.ok.injEq] at hts'
    exact ⟨generation.records, hts' ▸ hrecords⟩
  · rintro ⟨rs, hrecords⟩
    obtain ⟨ds, hrun⟩ := exists_foldlM_add_nil_eq_ok_iff.2 hrecords
    exact ⟨_, generate_eq_ok_iff.2 ⟨ts, rs, ds, hts, hrun, rfl⟩⟩

theorem generate_eq_error_iff (hts : g.templates tree = .ok ts) :
    g.generate tree = .error e ↔ ts.foldlM g.add ([], []) = .error e := by
  rw [generate, hts, Outcome.ok_bind, Outcome.bind_eq_error]
  simp

/-- Two trees with the same templates and the same current directory generate the same. -/
theorem generate_congr (hcwd : tree'.cwd = tree.cwd)
    (htemplates : g.templates tree' = g.templates tree) : g.generate tree' = g.generate tree := by
  rw [generate, generate, htemplates, Tree.cwdPath, Tree.cwdPath, hcwd]

/-- **A generation depends on its templates alone.** The templates are the files in the directory
whose names end in the right way; what else the tree holds makes no difference. They are taken in
the order of the bytes of their names. A generation succeeds if they give records without a name
twice, and these are its records, one for each. Otherwise it fails as the first template does that
fails by itself or repeats the name of an earlier one. -/
theorem generate_of_templates (hdir : tree.isDirectory g.dir = true) :
    (∀ tree' : Tree, tree'.cwd = tree.cwd → tree'.isDirectory g.dir = true →
      (∀ t, g.HasTemplate tree' t ↔ g.HasTemplate tree t) →
        g.generate tree' = g.generate tree) ∧
    ∃ ts, (∀ t, t ∈ ts ↔ g.HasTemplate tree t) ∧
      (ts.Pairwise fun t t' => Text.utf8 t.1 < Text.utf8 t'.1) ∧
      ((∃ generation, g.generate tree = .ok generation) ↔ ∃ rs, g.Records ts rs) ∧
      (∀ generation, g.generate tree = .ok generation →
        g.Records ts generation.records ∧
          generation.templates = ts.map fun t => g.templatePath t.1) ∧
      ∀ e, g.generate tree = .error e ↔
        ∃ before t after rs, ts = before ++ t :: after ∧ g.Records before rs ∧
          (g.Refuses t e ∨ ∃ r t₀ r₀, g.Gives t r ∧ t₀ ∈ before ∧ g.Gives t₀ r₀ ∧
            r₀.name = r.name ∧ e = .duplicate r.name t₀.1 t.1) := by
  obtain ⟨ts, hts⟩ := exists_templates hdir
  obtain ⟨hmem, hsorted⟩ := (templates_eq_ok_iff hdir).1 hts
  refine ⟨?_, ts, hmem, hsorted.imp Text.utf8_lt_iff.2, exists_generate_iff hts, ?_, ?_⟩
  · intro tree' hcwd hdir' hsame
    refine generate_congr hcwd ?_
    rw [hts, templates_eq_ok_iff hdir']
    exact ⟨fun t => (hmem t).trans (hsame t).symm, hsorted⟩
  · intro generation h
    obtain ⟨ts', hts', hrecords, hpaths⟩ := exists_records_of_generate h
    rw [hts, Except.ok.injEq] at hts'
    subst hts'
    exact ⟨hrecords, hpaths⟩
  · intro e
    rw [generate_eq_error_iff hts, foldlM_add_nil_eq_error_iff]
    refine exists₄_congr fun before t after rs => and_congr_right fun _ => ?_
    refine and_congr_right fun hrecords => or_congr_right ?_
    constructor
    · rintro ⟨r, hr, r₀, hr₀, hname, rfl⟩
      obtain ⟨t₀, ht₀, hgives⟩ := (mem_records_iff hrecords.gives).1 hr₀
      exact ⟨r, t₀, r₀, hr, ht₀, hgives, hname, by rw [hgives.templateFile]⟩
    · rintro ⟨r, t₀, r₀, hr, ht₀, hgives, hname, rfl⟩
      have hr₀ := (mem_records_iff hrecords.gives).2 ⟨t₀, ht₀, hgives⟩
      exact ⟨r, hr, r₀, hr₀, hname, by rw [hgives.templateFile]⟩

private def pairedGenerator : Generator := .usual ⟨"q"⟩

private def pairedTree : Tree where
  cwd := []
  entries := [(["q"], .directory), (["q", "find_user.sql"], .file (.text "SELECT 2")),
    (["q", "find-user.sql"], .file (.text "SELECT 1"))]
  nodup := by decide

/-- The same templates listed the other way round, with a directory and a file between them. -/
private def pairedTree' : Tree where
  cwd := []
  entries := [(["q", "find-user.sql"], .file (.text "SELECT 1")), (["q", "old.sql"], .directory),
    (["q", "find_user.sql"], .file (.text "SELECT 2")),
    (["q", "notes.txt"], .file (.binary [255])), (["q"], .directory)]
  nodup := by decide

/-- Two files with one record name: the later one in the order of bytes is blamed, in both trees. -/
theorem generate_of_templates_paired :
    pairedTree.isDirectory pairedGenerator.dir = true ∧
      pairedGenerator.generate pairedTree' = pairedGenerator.generate pairedTree ∧
      pairedGenerator.generate pairedTree =
        .error (.duplicate "FindUserQueryElem" "find-user.sql" "find_user.sql") := by
  have hdir : pairedTree.isDirectory pairedGenerator.dir = true := by decide
  have hplace : pairedTree.locate pairedGenerator.dir = .ok ["q"] := by decide
  have hplace' : pairedTree'.locate pairedGenerator.dir = .ok ["q"] := by decide
  let first : Text × Content := ("find-user.sql", .text "SELECT 1")
  let second : Text × Content := ("find_user.sql", .text "SELECT 2")
  have hfiles : (pairedTree.children ["q"]).filterMap template? = [second, first] := by
    decide
  have hfiles' : (pairedTree'.children ["q"]).filterMap template? = [first, second] := by
    decide
  obtain ⟨hframe, ts, hmem, hsorted, -, -, herror⟩ := generate_of_templates hdir
  refine ⟨hdir, hframe pairedTree' rfl (by decide) fun t => ?_, ?_⟩
  · rw [hasTemplate_iff_mem hplace', hasTemplate_iff_mem hplace, hfiles, hfiles']
    simp [or_comm]
  · have hts : ts = [first, second] := by
      refine eq_of_pairwise_of_mem_iff (hsorted.imp Text.utf8_lt_iff.1) (by decide) ?_
      intro t
      rw [hmem, hasTemplate_iff_mem hplace, hfiles]
      simp [or_comm]
    have hgives : pairedGenerator.Gives first
        ⟨"FindUserQueryElem", "find-user.sql", "FIND_USER_QUERY_ELEM_SQL", []⟩ :=
      ⟨"SELECT 1", [], rfl, by decide +kernel⟩
    have hgives' : pairedGenerator.Gives second
        ⟨"FindUserQueryElem", "find_user.sql", "FIND_USER_QUERY_ELEM_SQL", []⟩ :=
      ⟨"SELECT 2", [], rfl, by decide +kernel⟩
    exact (herror _).2 ⟨[first], second, [], _, hts, ⟨.cons hgives .nil, by simp⟩,
      .inr ⟨_, first, _, hgives', by simp, hgives, rfl, rfl⟩⟩

end TwoWaySql.Generator

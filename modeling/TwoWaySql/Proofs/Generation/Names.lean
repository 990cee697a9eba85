import TwoWaySql.Proofs.Generation.Records
import TwoWaySql.Proofs.Record.Naming

/-!
# The names in a generated file

A generated file defines a type and a constant for every record, next to the types it imports. The
types have names of their own, since a repeated one makes the generation fail. The constants are
named after the types and not compared: two of them are one if the names of the types differ in
nothing but capitals that start no word.
-/
namespace TwoWaySql.Generator

variable {g : Generator} {tree : Tree} {generation : Generation} {r r' : Record}

/-- What the names of a generated record are made from. -/
theorem names_of_mem_records (h : g.generate tree = .ok generation)
    (hr : r ∈ generation.records) :
    Naming.recordName? (FileName.stem r.templateFile) g.config.structSuffix = some r.name ∧
      r.constName = Naming.constantName r.name := by
  obtain ⟨ts, -, hrecords, -⟩ := exists_records_of_generate h
  obtain ⟨t, -, hgives⟩ := (mem_records_iff hrecords.gives).1 hr
  rw [hgives.templateFile]
  obtain ⟨source, unknown, -, hrecord⟩ := hgives
  obtain ⟨hname, -, hconst, -⟩ := Record.ofTemplate_eq_ok_iff.1 hrecord
  exact ⟨hname, hconst⟩

theorem constName_eq_iff (h : g.generate tree = .ok generation) (hr : r ∈ generation.records)
    (hr' : r' ∈ generation.records) :
    r.constName = r'.constName ↔ Naming.snake r.name = Naming.snake r'.name := by
  rw [(names_of_mem_records h hr).2, (names_of_mem_records h hr').2, Naming.constantName_inj]

/-- **The names of generated records.** No two records have one name. Two have constants of one
name exactly if their names are one in snake case, and then they differ in capitals alone. If the
capitals of every name, its suffix apart, stand away from each other, all constants have names of
their own. No record has an imported name unless such a name is longer than the suffix and ends in
it. -/
theorem names_of_generate (h : g.generate tree = .ok generation) :
    (generation.records.map (·.name)).Nodup ∧
    (∀ r ∈ generation.records, ∀ r' ∈ generation.records,
      (r.constName = r'.constName ↔ Naming.snake r.name = Naming.snake r'.name) ∧
      (r.constName = r'.constName → r.name.toLower = r'.name.toLower)) ∧
    ((∀ r ∈ generation.records, Naming.Apart (Naming.camel (FileName.stem r.templateFile))) →
      (generation.records.map (·.constName)).Nodup) ∧
    ((∀ name ∈ Source.imports g.config.dialect.style, g.config.structSuffix <:+ name →
        g.config.structSuffix = name) →
      ∀ r ∈ generation.records, r.name ∉ Source.imports g.config.dialect.style) := by
  obtain ⟨ts, -, hrecords, -⟩ := exists_records_of_generate h
  refine ⟨hrecords.names, fun r hr r' hr' => ⟨constName_eq_iff h hr hr', fun hconst => ?_⟩, ?_, ?_⟩
  · obtain ⟨c, rest, -, -, hname⟩ := Naming.recordName?_eq_some (names_of_mem_records h hr).1
    obtain ⟨c', rest', -, -, hname'⟩ := Naming.recordName?_eq_some (names_of_mem_records h hr').1
    have hsnake := (constName_eq_iff h hr hr').1 hconst
    rw [hname, hname'] at hsnake ⊢
    have hlower := Naming.toLower_eq_of_snake_eq (fun _ hc => Naming.isAlphanum_of_mem_camel hc)
      (fun _ hc => Naming.isAlphanum_of_mem_camel hc) hsnake
    simp only [Text.toLower, List.map_append] at hlower ⊢
    rw [hlower]
  · intro hapart
    have hnames := List.pairwise_map.1 hrecords.names
    refine List.pairwise_map.2 (hnames.imp_of_mem fun hr hr' hne hconst => hne ?_)
    exact Naming.recordName_inj_of_apart (names_of_mem_records h hr).1
      (names_of_mem_records h hr').1 (hapart _ hr) (hapart _ hr')
      ((constName_eq_iff h hr hr').1 hconst)
  · intro hsuffix r hr himport
    obtain ⟨c, rest, hcamel, -, hname⟩ :=
      Naming.recordName?_eq_some (names_of_mem_records h hr).1
    have heq : g.config.structSuffix = r.name := hsuffix r.name himport ⟨_, hname.symm⟩
    rw [← heq, hcamel] at hname
    have hlength := congrArg List.length hname
    simp only [List.length_append, List.length_cons] at hlength
    omega

private def lettersGenerator : Generator := .usual ⟨"q"⟩

private def lettersTree : Tree where
  cwd := []
  entries := [(["q"], .directory), (["q", "a_b.sql"], .file (.text "SELECT 1")),
    (["q", "ab.sql"], .file (.text "SELECT 2"))]
  nodup := by decide

private def lettersRecords : List Record :=
  [⟨"ABQueryElem", "a_b.sql", "AB_QUERY_ELEM_SQL", []⟩,
    ⟨"AbQueryElem", "ab.sql", "AB_QUERY_ELEM_SQL", []⟩]

private theorem exists_generate_letters :
    ∃ generation, lettersGenerator.generate lettersTree = .ok generation ∧
      generation.records = lettersRecords := by
  have hts : lettersGenerator.templates lettersTree =
      .ok [("a_b.sql", .text "SELECT 1"), ("ab.sql", .text "SELECT 2")] := by
    have hplace : lettersTree.locate lettersGenerator.dir = .ok ["q"] := by decide
    exact templates_eq_ok_of_perm hplace (by decide) (by decide)
      (by decide)
  exact ⟨_, generate_eq_ok_iff.2 ⟨_, lettersRecords, [], hts, by decide +kernel, rfl⟩, rfl⟩

private def apartTree : Tree where
  cwd := []
  entries := [(["q"], .directory), (["q", "find_user.sql"], .file (.text "SELECT 1")),
    (["q", "list_users.sql"], .file (.text "SELECT 2"))]
  nodup := by decide

private def apartRecords : List Record :=
  [⟨"FindUserQueryElem", "find_user.sql", "FIND_USER_QUERY_ELEM_SQL", []⟩,
    ⟨"ListUsersQueryElem", "list_users.sql", "LIST_USERS_QUERY_ELEM_SQL", []⟩]

private theorem exists_generate_apart :
    ∃ generation, lettersGenerator.generate apartTree = .ok generation ∧
      generation.records = apartRecords := by
  have hts : lettersGenerator.templates apartTree =
      .ok [("find_user.sql", .text "SELECT 1"), ("list_users.sql", .text "SELECT 2")] := by
    have hplace : apartTree.locate lettersGenerator.dir = .ok ["q"] := by decide
    exact templates_eq_ok_of_perm hplace (by decide) (by decide)
      (by decide)
  exact ⟨_, generate_eq_ok_iff.2 ⟨_, apartRecords, [], hts, by decide +kernel, rfl⟩, rfl⟩

/-- Files named after two letters and after one word give types of two names and constants of one.
Where the words of the files' names are longer, the constants have names of their own. -/
theorem names_of_generate_letters :
    (∃ generation, lettersGenerator.generate lettersTree = .ok generation ∧
      (generation.records.map (·.name)).Nodup ∧
      ¬(∀ r ∈ generation.records, Naming.Apart (Naming.camel (FileName.stem r.templateFile))) ∧
      ∀ r ∈ generation.records, r.name ∉ Source.imports lettersGenerator.config.dialect.style) ∧
    ∃ generation, lettersGenerator.generate apartTree = .ok generation ∧
      (∀ r ∈ generation.records, Naming.Apart (Naming.camel (FileName.stem r.templateFile))) ∧
      (generation.records.map (·.constName)).Nodup := by
  constructor
  · obtain ⟨generation, hgenerate, hrecords⟩ := exists_generate_letters
    obtain ⟨hnames, -, hapart, himports⟩ := names_of_generate hgenerate
    refine ⟨generation, hgenerate, hnames, fun h => absurd (hapart h) ?_, himports ?_⟩
    · rw [hrecords]
      decide
    · decide
  · obtain ⟨generation, hgenerate, hrecords⟩ := exists_generate_apart
    obtain ⟨-, -, hconsts, -⟩ := names_of_generate hgenerate
    have hapart : ∀ r ∈ generation.records,
        Naming.Apart (Naming.camel (FileName.stem r.templateFile)) := by
      rw [hrecords]
      decide
    exact ⟨generation, hgenerate, hapart, hconsts hapart⟩

private def valueGenerator : Generator :=
  ⟨⟨"q"⟩, { Config.usualFor ⟨"q"⟩ with structSuffix := [] }⟩

private def valueTree : Tree where
  cwd := []
  entries := [(["q"], .directory), (["q", "value.sql"], .file (.text "SELECT 1"))]
  nodup := by decide

/-- A generated file can define a constant twice, and with no suffix also a type that it imports. -/
theorem generate_repeats_names :
    (∃ generation, lettersGenerator.generate lettersTree = .ok generation ∧
      ¬(generation.records.map (·.constName)).Nodup) ∧
    ∃ generation, valueGenerator.generate valueTree = .ok generation ∧
      ∃ r ∈ generation.records,
        r.name ∈ Source.imports valueGenerator.config.dialect.style := by
  constructor
  · obtain ⟨generation, hgenerate, hrecords⟩ := exists_generate_letters
    refine ⟨generation, hgenerate, ?_⟩
    rw [hrecords]
    decide
  · have hts : valueGenerator.templates valueTree = .ok [("value.sql", .text "SELECT 1")] := by
      have hplace : valueTree.locate valueGenerator.dir = .ok ["q"] := by decide
      exact templates_eq_ok_of_perm hplace (by decide) (by decide) (by simp)
    refine ⟨_, generate_eq_ok_iff.2
      ⟨_, [⟨"Value", "value.sql", "VALUE_SQL", []⟩], [], hts, by decide +kernel, rfl⟩, ?_⟩
    exact ⟨_, List.mem_singleton_self _, by decide⟩

end TwoWaySql.Generator

import TwoWaySql.Proofs.FileSystem.Tree

/-!
# What a change leaves alone

Writing a file and creating directories take no directory away. So a path that led to a place
before leads to it afterwards, and what was created can be told by where paths lead in the end.
What is no directory stays what it is, but for a file that is written; and where a path leads to a
sink, not even that changes.

## Main definitions

* `Tree.Keeps` — one tree has the directories of another.
* `Tree.Creates` — one tree comes from another by creating directories that some paths lead to.
* `Tree.Spares` — the files and sinks of one tree are those of another, some places apart.
* `Tree.Puts` — a file is put at a place, and all other files and sinks are spared.
-/
namespace TwoWaySql.Tree

variable {tree tree₁ tree₂ : Tree} {place : Place} {entry : Entry} {p : Path} {ps : List Path}
  {c c' : Content}

/-- Whether a tree has the current directory of another and all its directories. -/
structure Keeps (tree tree' : Tree) : Prop where
  /-- The current directory is the same. -/
  cwd : tree'.cwd = tree.cwd
  /-- What was a directory is one. -/
  directory : ∀ q, tree.get? q = some .directory → tree'.get? q = some .directory

namespace Keeps

theorem refl (tree : Tree) : Keeps tree tree := ⟨rfl, fun _ h => h⟩

theorem trans (h : Keeps tree tree₁) (h' : Keeps tree₁ tree₂) : Keeps tree tree₂ :=
  ⟨h'.cwd.trans h.cwd, fun q hq => h'.directory q (h.directory q hq)⟩

/-- A path leads where it led. -/
theorem locate (h : Keeps tree tree₁) (hplace : tree.locate p = .ok place) :
    tree₁.locate p = .ok place := by
  obtain ⟨htext, hfollow⟩ := locate_eq_ok_iff.1 hplace
  exact locate_eq_ok_iff.2 ⟨htext, follow_mono h.directory (h.cwd ▸ hfollow)⟩

theorem isDirectory (h : Keeps tree tree₁) (hdir : tree.isDirectory p = true) :
    tree₁.isDirectory p = true := by
  rw [isDirectory_iff, lookup_eq_directory_iff] at hdir ⊢
  obtain ⟨place, hplace, hget⟩ := hdir
  exact ⟨place, h.locate hplace, h.directory place hget⟩

/-- What takes the place of no directory takes none away. -/
theorem set (h : tree.get? place ≠ some .directory) : Keeps tree (tree.set place entry) := by
  refine ⟨rfl, fun q hq => ?_⟩
  have hne : q ≠ place := by
    rintro rfl
    exact h hq
  rwa [get?_set_of_ne _ _ hne]

theorem write (h : tree.write p c = .ok tree₁) : Keeps tree tree₁ := by
  obtain ⟨place, -, -, hfree, rfl⟩ := write_eq_ok_iff.1 h
  by_cases hsink : tree.get? place = some .sink
  · rw [put_of_sink hsink]
    exact .refl tree
  · rw [put_of_ne_sink hsink]
    exact .set hfree

end Keeps

/-- Writing changes the place of the path and no other. -/
theorem get?_write (h : tree.write p c = .ok tree₁)
    (hplace : tree.locate p ≠ .ok place) : tree₁.get? place = tree.get? place := by
  obtain ⟨target, htarget, -, -, rfl⟩ := write_eq_ok_iff.1 h
  by_cases hsink : tree.get? target = some .sink
  · rw [put_of_sink hsink]
  · rw [put_of_ne_sink hsink]
    refine get?_set_of_ne _ _ ?_
    rintro rfl
    exact hplace htarget

/-- Whether a tree is another in which some of the directories that paths lead to were created. -/
structure Creates (ps : List Path) (tree tree' : Tree) : Prop extends Keeps tree tree' where
  /-- Where something changed, nothing was before, and a directory is that some path leads to. -/
  created : ∀ q, tree'.get? q ≠ tree.get? q → tree.get? q = none ∧
    tree'.get? q = some .directory ∧ ∃ p ∈ ps, tree'.locate p = .ok q

namespace Creates

theorem refl (ps : List Path) (tree : Tree) : Creates ps tree tree :=
  ⟨.refl tree, fun _ h => absurd rfl h⟩

theorem createDirectory (h : Creates ps tree tree₁) (hp : p ∈ ps)
    (hcreate : tree₁.createDirectory p = .ok tree₂) : Creates ps tree tree₂ := by
  obtain ⟨place, hplace, hname, hnone, rfl⟩ := createDirectory_eq_ok_iff.1 hcreate
  obtain ⟨above, name, rfl, -⟩ := exists_of_locate_of_endsInName hplace hname
  have hkeeps : Keeps tree₁ (tree₁.set (above ++ [name]) .directory) := .set (by simp [hnone])
  refine ⟨h.toKeeps.trans hkeeps, fun q hq => ?_⟩
  by_cases heq : q = above ++ [name]
  · -- a directory that had been created before would still be there
    have hsame : tree₁.get? q = tree.get? q := by
      by_contra hne
      have hdir := (h.created q hne).2.1
      rw [heq, hnone] at hdir
      cases hdir
    refine ⟨by rw [← hsame, heq, hnone], ?_, p, hp, ?_⟩
    · rw [heq, get?_set_self _ _ _ (by simp)]
    · rw [heq, hkeeps.locate hplace]
  · rw [get?_set_of_ne _ _ heq] at hq ⊢
    obtain ⟨hbefore, hdir, p', hp', hlocate⟩ := h.created q hq
    exact ⟨hbefore, hdir, p', hp', hkeeps.locate hlocate⟩

end Creates

/-- Creating the directory of a path creates directories of its ancestors, and nothing else. -/
theorem creates_createDirectories (tree : Tree) (p : Path) :
    Creates p.ancestors tree (tree.createDirectories p).1 :=
  invariant_of_createAll (fun _ _ hp _ h hcreate => h.createDirectory hp hcreate)
    (.refl p.ancestors tree)

/-- Whether a tree has at least the directories of another, and the same files and sinks, some places
apart. -/
structure Spares (P : Place → Prop) (tree tree' : Tree) : Prop extends Keeps tree tree' where
  /-- What is no directory is the same. -/
  others : ∀ q, ¬P q → ∀ entry, entry ≠ .directory →
    (tree'.get? q = some entry ↔ tree.get? q = some entry)

/-- A path that leads to a place that is spared leads to what it led to. -/
theorem Spares.lookup_eq_ok_iff {P : Place → Prop} (h : Spares P tree tree₁) {q : Place}
    (hq : tree.locate p = .ok q) (hP : ¬P q) (hentry : entry ≠ .directory) :
    tree₁.lookup p = .ok entry ↔ tree.lookup p = .ok entry := by
  simp only [Tree.lookup_eq_ok_iff hentry, hq, h.toKeeps.locate hq, Except.ok.injEq,
    exists_eq_left', h.others q hP entry hentry]

/-- Where only directories are created, everything else is spared. -/
theorem Creates.spares (h : Creates ps tree tree₁) : Spares (fun _ => False) tree tree₁ := by
  refine ⟨h.toKeeps, fun q _ entry hentry => ?_⟩
  by_cases hsame : tree₁.get? q = tree.get? q
  · rw [hsame]
  · obtain ⟨hnone, hdir, -⟩ := h.created q hsame
    simp [hnone, hdir, hentry.symm]

/-- Whether a tree has a file at a place, and otherwise the files and sinks of another tree, and at
least its directories. -/
structure Puts (place : Place) (c : Content) (tree tree' : Tree) : Prop
    extends Spares (· = place) tree tree' where
  /-- The file is there. -/
  file : tree'.get? place = some (.file c)

namespace Puts

/-- Writing a file where no sink is, with directories created before, puts it there. -/
theorem set (h : Creates ps tree tree₁) (hne : place ≠ [])
    (hfree : tree₁.get? place ≠ some .directory) :
    Puts place c tree (tree₁.set place (.file c)) := by
  have hkeeps : Keeps tree₁ (tree₁.set place (.file c)) := .set hfree
  refine ⟨⟨h.toKeeps.trans hkeeps, fun q hq entry hentry => ?_⟩, get?_set_self _ _ _ hne⟩
  rw [get?_set_of_ne _ _ hq, h.spares.others q not_false entry hentry]

/-- A path that leads to the place leads to the file there. -/
theorem lookup_self (h : Puts place c tree tree₁) (hplace : tree₁.locate p = .ok place)
    (hslash : endsInSlash p = false) : tree₁.lookup p = .ok (.file c) :=
  lookup_eq_file_iff.2 ⟨place, hplace, h.file, hslash⟩

end Puts

/-- Writing a file, with directories created before, puts it at the place of its path, unless a sink
is there; then it changes nothing. -/
theorem exists_of_creates_of_write (h : Creates ps tree tree₁)
    (hwrite : tree₁.write p c = .ok tree₂) :
    ∃ place, tree₂.locate p = .ok place ∧ endsInSlash p = false ∧
      (tree₂.get? place = some .sink ∧ tree₂ = tree₁ ∨ Puts place c tree tree₂) := by
  have hkeeps := Keeps.write hwrite
  obtain ⟨place, hplace, ⟨hslash, hname⟩, hfree, rfl⟩ := write_eq_ok_iff.1 hwrite
  obtain ⟨above, name, rfl, -⟩ := exists_of_locate_of_endsInName hplace hname
  refine ⟨_, hkeeps.locate hplace, hslash, ?_⟩
  by_cases hsink : tree₁.get? (above ++ [name]) = some .sink
  · rw [put_of_sink hsink]
    exact .inl ⟨hsink, rfl⟩
  · rw [put_of_ne_sink hsink]
    exact .inr (.set h (by simp) hfree)

end TwoWaySql.Tree

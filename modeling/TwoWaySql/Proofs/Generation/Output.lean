import TwoWaySql.Generation.Basic
import TwoWaySql.Proofs.FileSystem.Change
import TwoWaySql.Proofs.FileSystem.Parent

/-!
# The generated file

Writing what is generated changes nothing exactly if it is there already, or goes into a sink. If
the file can be read, the directories above it are there and none is created; and what is written is
what was there. The other way round, writing that changes nothing put the file where it stands,
unless the output leads to a sink, which keeps nothing and never is up to date.

## Main definitions

* `Generation.directories` — the directories that writing creates where they are missing.
-/
namespace TwoWaySql.Generation

variable {g : Generation} {tree tree' : Tree} {place : Place}

/-- A source that is not empty is up to date where a file has it; a sink never does. -/
theorem isUpToDate_eq_true_iff (hsource : g.source ≠ []) :
    g.isUpToDate tree = .ok true ↔ tree.lookup g.output = .ok (.file (.text g.source)) := by
  have hread : tree.readText g.output = .ok g.source ↔
      tree.lookup g.output = .ok (.file (.text g.source)) := by
    simp [Tree.readText_eq_ok_iff, hsource]
  rw [← hread, isUpToDate]
  split
  · next t h => simp [h]
  · next h => simp [h]
  · next e _ h => simp [h]

theorem write_eq_ok_iff : g.write tree = (tree', .ok ()) ↔ ∃ prepared,
    g.prepare tree = (prepared, .ok ()) ∧
      prepared.write g.output (.text g.source) = .ok tree' := by
  rw [write]
  rcases hprepare : g.prepare tree with ⟨prepared, e | ⟨⟩⟩
  · simp
  · cases hwrite : prepared.write g.output (.text g.source) <;> simp [hwrite]

/-- Where the generated file can be found, no directory is missing. -/
theorem prepare_of_locate (h : tree.locate g.output = .ok place) :
    g.prepare tree = (tree, .ok ()) := by
  rw [prepare]
  split
  · rfl
  · next parent hparent => rw [Tree.createDirectories_parent hparent h]

/-- The directory of the generated file and those above it. -/
def directories (g : Generation) : List Path :=
  match g.output.parent? with
  | none => []
  | some parent => parent.ancestors

theorem creates_prepare : Tree.Creates g.directories tree (g.prepare tree).1 := by
  rw [directories, prepare]
  cases g.output.parent? with
  | none => exact .refl [] tree
  | some parent =>
      have hcreates := Tree.creates_createDirectories tree parent
      dsimp only
      split <;> next heq => rwa [heq] at hcreates

/-- Writing the generated file creates directories, and then writes the file or stops. -/
theorem write_cases (g : Generation) (tree : Tree) :
    ∃ prepared, Tree.Creates g.directories tree prepared ∧
      ((g.write tree).1 = prepared ∨
        prepared.write g.output (.text g.source) = .ok (g.write tree).1) := by
  refine ⟨(g.prepare tree).1, creates_prepare, ?_⟩
  rw [write]
  split
  · next heq => exact .inl (by rw [heq])
  · next prepared heq =>
    rw [heq]
    split
    · next hwrite => exact .inr hwrite
    · exact .inl rfl

theorem keeps_write : Tree.Keeps tree (g.write tree).1 := by
  obtain ⟨prepared, hcreates, hsame | hwrite⟩ := g.write_cases tree
  · rw [hsame]
    exact hcreates.toKeeps
  · exact hcreates.toKeeps.trans (.write hwrite)

/-- Where writing the generated file changed something, the output stands, or a directory that was
missing. -/
theorem changes_write (hplace : (g.write tree).1.get? place ≠ tree.get? place) :
    (g.write tree).1.locate g.output = .ok place ∨
      (tree.get? place = none ∧ (g.write tree).1.get? place = some .directory ∧
        ∃ p ∈ g.directories, (g.write tree).1.locate p = .ok place) := by
  obtain ⟨prepared, hcreates, hsame | hwrite⟩ := g.write_cases tree
  · rw [hsame] at hplace ⊢
    exact .inr (hcreates.created place hplace)
  · have hkeeps := Tree.Keeps.write hwrite
    by_cases houtput : prepared.locate g.output = .ok place
    · exact .inl (hkeeps.locate houtput)
    · rw [Tree.get?_write hwrite houtput] at hplace ⊢
      obtain ⟨hnone, hdir, p, hp, hlocate⟩ := hcreates.created place hplace
      exact .inr ⟨hnone, hdir, p, hp, hkeeps.locate hlocate⟩

/-- Writing that goes through puts the generated file where the output leads, or it creates no more
than directories and the output leads to a sink. -/
theorem exists_puts_of_write (h : g.write tree = (tree', .ok ())) : ∃ place,
    tree'.locate g.output = .ok place ∧ Tree.endsInSlash g.output = false ∧
      (tree'.get? place = some .sink ∧ Tree.Creates g.directories tree tree' ∨
        Tree.Puts place (.text g.source) tree tree') := by
  obtain ⟨prepared, hprepare, hwrite⟩ := write_eq_ok_iff.1 h
  have hcreates : Tree.Creates g.directories tree (g.prepare tree).1 := creates_prepare
  rw [hprepare] at hcreates
  obtain ⟨place, hplace, hslash, ⟨hsink, rfl⟩ | hputs⟩ :=
    Tree.exists_of_creates_of_write hcreates hwrite
  · exact ⟨place, hplace, hslash, .inl ⟨hsink, hcreates⟩⟩
  · exact ⟨place, hplace, hslash, .inr hputs⟩

theorem closed_prepare (h : tree.Closed) : (g.prepare tree).1.Closed := by
  rw [prepare]
  split
  · exact h
  · next parent _ =>
    have hclosed := h.createDirectories (p := parent)
    split <;> next heq => rwa [heq] at hclosed

theorem closed_write (h : tree.Closed) : (g.write tree).1.Closed := by
  have hprepared := closed_prepare (g := g) h
  rw [write]
  split
  · next heq => rwa [heq] at hprepared
  · next prepared heq =>
    rw [heq] at hprepared
    split
    · next hwrite => exact hprepared.write hwrite
    · exact hprepared

/-- Where the generated file stands, writing it changes nothing. -/
theorem exists_write_of_lookup (hclosed : tree.Closed)
    (h : tree.lookup g.output = .ok (.file (.text g.source))) :
    ∃ tree', g.write tree = (tree', .ok ()) ∧ ∀ q, tree'.get? q = tree.get? q := by
  obtain ⟨place, hplace, hfile, hslash⟩ := Tree.lookup_eq_file_iff.1 h
  refine ⟨tree.put place (.text g.source), ?_, fun q => ?_⟩
  · refine write_eq_ok_iff.2 ⟨tree, prepare_of_locate hplace, Tree.write_eq_ok_iff.2 ?_⟩
    exact ⟨place, hplace, ⟨hslash, hclosed.endsInName hplace hfile⟩, by simp [hfile], rfl⟩
  · rw [Tree.put_of_ne_sink (by simp [hfile])]
    by_cases hq : q = place
    · have hne : place ≠ [] := by
        rintro rfl
        cases hfile
      rw [hq, Tree.get?_set_self _ _ _ hne, hfile]
    · exact Tree.get?_set_of_ne _ _ hq

/-- Writing that changes nothing leads where the output led before, and what stands there is a sink
or the generated file. -/
theorem lookup_of_write (hwrite : g.write tree = (tree', .ok ()))
    (hsame : ∀ q, tree'.get? q = tree.get? q) :
    tree.lookup g.output = .ok .sink ∨
      tree.lookup g.output = .ok (.file (.text g.source)) := by
  obtain ⟨place, hplace, hslash, hthere⟩ := exists_puts_of_write hwrite
  have hcwd : tree'.cwd = tree.cwd := by
    have hkeeps : Tree.Keeps tree (g.write tree).1 := keeps_write
    rw [hwrite] at hkeeps
    exact hkeeps.cwd
  have hlocate : tree.locate g.output = .ok place := by
    obtain ⟨htext, hfollow⟩ := Tree.locate_eq_ok_iff.1 hplace
    refine Tree.locate_eq_ok_iff.2 ⟨htext, Tree.follow_mono (fun q hq => ?_) (hcwd ▸ hfollow)⟩
    rwa [← hsame]
  rcases hthere with ⟨hsink, -⟩ | hputs
  · exact .inl ((Tree.lookup_eq_ok_iff (by simp)).2 ⟨place, hlocate, by rw [← hsame, hsink], hslash⟩)
  · exact .inr (Tree.lookup_eq_file_iff.2 ⟨place, hlocate, by rw [← hsame, hputs.file], hslash⟩)

/-- **The generated file stands where it is to stand exactly if writing it goes through and changes
nothing**, and the output does not lead to a sink. -/
theorem lookup_output_iff (h : tree.Closed) :
    tree.lookup g.output = .ok (.file (.text g.source)) ↔ tree.lookup g.output ≠ .ok .sink ∧
      ∃ tree', g.write tree = (tree', .ok ()) ∧ ∀ q, tree'.get? q = tree.get? q := by
  constructor
  · intro hlookup
    exact ⟨by simp [hlookup], exists_write_of_lookup h hlookup⟩
  · rintro ⟨hsink, tree', hwrite, hsame⟩
    exact (lookup_of_write hwrite hsame).resolve_left hsink

end TwoWaySql.Generation

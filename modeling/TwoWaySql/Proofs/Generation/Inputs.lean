import Mathlib.Data.List.Perm.Basic
import TwoWaySql.Proofs.FileSystem.Change
import TwoWaySql.Proofs.Generation.Records

/-!
# A file among the templates

What is generated depends on the templates alone, so a file that is no template makes no difference
to it. A file that becomes one more template does: there is one more record, and the generated file
is longer than before.

## Main definitions

* `Generator.TakesFrom` — the places that templates are taken from.
-/
namespace TwoWaySql

namespace Source

variable {options : SourceOptions} {r : Record} {rs rs' : List Record}

/-- What is generated for a record, with the line before it. -/
def recordPart (options : SourceOptions) (r : Record) : Text :=
  Text.lines [""] ++ ofRecord options r

theorem ofRecords_cons (options : SourceOptions) (r : Record) (rs : List Record) :
    ofRecords options (r :: rs) = Text.lines [header] ++
      (Text.lines ["", importLine options] ++ (r :: rs).flatMap (recordPart options)) := rfl

/-- One more record makes the generated file longer. -/
theorem length_ofRecords_lt (h : rs'.Perm (r :: rs)) :
    (ofRecords options rs).length < (ofRecords options rs').length := by
  have hsum : (rs'.flatMap (recordPart options)).length =
      (recordPart options r).length + (rs.flatMap (recordPart options)).length := by
    rw [(h.flatMap fun _ _ => .refl _).length_eq, List.flatMap_cons, List.length_append]
  have hpart : 0 < (recordPart options r).length := Nat.succ_pos _
  obtain ⟨r', rest, rfl⟩ : ∃ r' rest, rs' = r' :: rest :=
    List.exists_cons_of_length_pos (by simp [h.length_eq])
  rw [ofRecords_cons, List.length_append, List.length_append, hsum]
  cases rs with
  | nil =>
      have hheader : ofRecords options [] = Text.lines [header] := rfl
      rw [hheader]
      omega
  | cons r rs =>
      rw [ofRecords_cons, List.length_append, List.length_append]
      omega

end Source

namespace Generator

variable {g : Generator} {tree tree' : Tree} {place : Place} {c : Content} {t : Text × Content}
  {ts ts' : List (Text × Content)} {rs rs' : List Record} {generation generation' : Generation}
  {dir : Place} {name : Text} {P : Place → Prop}

/-- Whether a file at a place is a template of the directory that a path leads to. -/
def TakesFrom (p : Path) (tree : Tree) (place : Place) : Prop :=
  ∃ dir name, tree.locate p = .ok dir ∧ isTemplate name = true ∧ place = dir ++ [name]

/-- Where no template is taken from, what changes makes no difference to the templates. -/
theorem hasTemplate_of_spares_iff (h : Tree.Spares P tree tree')
    (hdir : tree.locate g.dir = .ok dir) (hplace : ∀ place, P place → ¬TakesFrom g.dir tree place) :
    g.HasTemplate tree' t ↔ g.HasTemplate tree t := by
  simp only [HasTemplate, h.toKeeps.locate hdir, hdir, Except.ok.injEq, exists_eq_left']
  refine and_congr_right fun hname => h.others _ (fun hP => ?_) _ (by simp)
  exact hplace _ hP ⟨dir, t.1, hdir, hname, rfl⟩

/-- A file that is put at a place is a template if its name says so. The others stay what they
are. -/
theorem hasTemplate_of_puts_iff (h : Tree.Puts place c tree tree')
    (hdir : tree.locate g.dir = .ok dir) : g.HasTemplate tree' t ↔ isTemplate t.1 = true ∧
      if dir ++ [t.1] = place then t.2 = c else tree.get? (dir ++ [t.1]) = some (.file t.2) := by
  simp only [HasTemplate, h.toKeeps.locate hdir, Except.ok.injEq, exists_eq_left']
  refine and_congr_right fun _ => ?_
  split
  · next heq => simp [heq, h.file, eq_comm]
  · next hne => exact h.others _ hne _ (by simp)

/-- A file that takes the place of none is one more template, if its name says so. -/
theorem hasTemplate_of_puts_new (h : Tree.Puts (dir ++ [name]) c tree tree')
    (hdir : tree.locate g.dir = .ok dir) (hname : isTemplate name = true)
    (hnew : ∀ c', tree.get? (dir ++ [name]) ≠ some (.file c')) :
    g.HasTemplate tree' t ↔ t = (name, c) ∨ g.HasTemplate tree t := by
  rw [hasTemplate_of_puts_iff h hdir]
  constructor
  · rintro ⟨ht, hfile⟩
    split at hfile
    · next heq => exact .inl (Prod.ext (by simpa using heq) hfile)
    · exact .inr ⟨ht, dir, hdir, hfile⟩
  · rintro (rfl | ⟨ht, dir', hdir', hfile⟩)
    · exact ⟨hname, by rw [if_pos rfl]⟩
    · obtain rfl : dir = dir' := Except.ok.inj (hdir.symm.trans hdir')
      have hne : dir ++ [t.1] ≠ dir ++ [name] := fun heq => hnew t.2 (heq ▸ hfile)
      exact ⟨ht, by rwa [if_neg hne]⟩

/-- What changes where no template is taken from makes no difference to what is generated. -/
theorem generate_of_spares (h : Tree.Spares P tree tree') (hdir : tree.isDirectory g.dir = true)
    (hplace : ∀ place, P place → ¬TakesFrom g.dir tree place) :
    g.generate tree' = g.generate tree := by
  obtain ⟨ts, hts⟩ := exists_templates hdir
  obtain ⟨hmem, hsorted⟩ := (templates_eq_ok_iff hdir).1 hts
  refine generate_congr h.cwd ?_
  rw [hts, templates_eq_ok_iff (h.toKeeps.isDirectory hdir)]
  refine ⟨fun t => ?_, hsorted⟩
  obtain ⟨dir, hlocate, -⟩ := Tree.lookup_eq_directory_iff.1 (Tree.isDirectory_iff.1 hdir)
  rw [hmem, hasTemplate_of_spares_iff h hlocate hplace]

/-- One more template gives one more record. -/
theorem exists_perm_records (hperm : ts'.Perm (t :: ts)) (hrs : List.Forall₂ g.Gives ts rs)
    (hrs' : List.Forall₂ g.Gives ts' rs') : ∃ r, rs'.Perm (r :: rs) := by
  obtain ⟨all, hall, hperm'⟩ := List.perm_comp_forall₂ hperm.symm hrs'
  obtain ⟨r, rest, -, hrest, rfl⟩ := List.forall₂_cons_left_iff.1 hall
  have hunique : Relator.RightUnique g.Gives := fun _ _ _ hr hr' => hr'.unique hr
  rw [List.right_unique_forall₂' hunique hrest hrs] at hperm'
  exact ⟨r, hperm'.symm⟩

/-- A file that becomes one more template makes the generated file longer. -/
theorem length_source_lt_of_puts (h : Tree.Puts place c tree tree')
    (hplace : TakesFrom g.dir tree place) (hnew : ∀ c', tree.get? place ≠ some (.file c'))
    (hdir : tree.isDirectory g.dir = true) (hg : g.generate tree = .ok generation)
    (hg' : g.generate tree' = .ok generation') :
    generation.source.length < generation'.source.length := by
  obtain ⟨dir, name, hlocate, hname, rfl⟩ := hplace
  obtain ⟨ts, rs, ds, hts, hrun, rfl⟩ := generate_eq_ok_iff.1 hg
  obtain ⟨ts', rs', ds', hts', hrun', rfl⟩ := generate_eq_ok_iff.1 hg'
  obtain ⟨hmem, hsorted⟩ := (templates_eq_ok_iff hdir).1 hts
  obtain ⟨hmem', hsorted'⟩ := (templates_eq_ok_iff (h.toKeeps.isDirectory hdir)).1 hts'
  have hperm : ts'.Perm ((name, c) :: ts) := by
    have habsent : (name, c) ∉ ts := by
      rw [hmem]
      rintro ⟨-, dir', hlocate', hfile⟩
      obtain rfl : dir = dir' := Except.ok.inj (hlocate.symm.trans hlocate')
      exact hnew c hfile
    refine (List.perm_ext_iff_of_nodup (nodup_of_pairwise hsorted')
      (List.nodup_cons.2 ⟨habsent, nodup_of_pairwise hsorted⟩)).2 fun t => ?_
    rw [hmem', List.mem_cons, hmem, hasTemplate_of_puts_new h hlocate hname hnew]
  obtain ⟨r, hrs⟩ := exists_perm_records hperm
    (exists_foldlM_add_nil_eq_ok_iff.1 ⟨ds, hrun⟩).gives
    (exists_foldlM_add_nil_eq_ok_iff.1 ⟨ds', hrun'⟩).gives
  have hcwd : tree'.cwdPath = tree.cwdPath := by
    rw [Tree.cwdPath, Tree.cwdPath, h.cwd]
  rw [hcwd]
  exact Source.length_ofRecords_lt hrs

end Generator

end TwoWaySql

import Mathlib.Data.List.Nodup
import TwoWaySql.Proofs.FileSystem.Tree
import TwoWaySql.Proofs.Text.Order

/-!
# The templates of a directory

Which files of a directory are templates is decided by their names, and the templates are taken in
the order of their names. So the list of templates is fixed by what files there are: it is the only
one in order that has them all, however the directory lists its entries and whatever else is in it.

## Main definitions

* `Generator.HasTemplate` — the files of a directory that are templates.
-/
namespace TwoWaySql.Generator

variable {g : Generator} {tree : Tree} {place : Place} {t : Text × Content}

/-- Whether a file of a name and a content stands directly in the directory and is a template. -/
def HasTemplate (g : Generator) (tree : Tree) (t : Text × Content) : Prop :=
  isTemplate t.1 = true ∧
    ∃ place, tree.locate g.dir = .ok place ∧ tree.get? (place ++ [t.1]) = some (.file t.2)

/-- What an entry of a directory is as a template, if it is one. -/
def template? : Text × Entry → Option (Text × Content)
  | (name, entry) =>
    match entry with
    | .file content => if isTemplate name then some (name, content) else none
    | .directory | .sink => none

theorem template?_eq_some_iff {e : Text × Entry} :
    template? e = some t ↔ isTemplate t.1 = true ∧ e = (t.1, .file t.2) := by
  constructor
  · obtain ⟨name, entry⟩ := e
    intro h
    cases entry with
    | directory | sink => cases h
    | file content =>
        by_cases hname : isTemplate name = true
        · simp only [template?, hname, if_true, Option.some.injEq] at h
          subst h
          exact ⟨hname, rfl⟩
        · simp [template?, hname] at h
  · rintro ⟨hname, rfl⟩
    simp [template?, hname]

theorem mem_templatesAmong_iff {children : List (Text × Entry)} :
    t ∈ templatesAmong children ↔ isTemplate t.1 = true ∧ (t.1, .file t.2) ∈ children := by
  have hmem : t ∈ templatesAmong children ↔ ∃ e ∈ children, template? e = some t := by
    rw [templatesAmong, List.mem_mergeSort]
    exact List.mem_filterMap
  simp only [hmem, template?_eq_some_iff]
  constructor
  · rintro ⟨e, he, hname, rfl⟩
    exact ⟨hname, he⟩
  · rintro ⟨hname, he⟩
    exact ⟨_, he, hname, rfl⟩

theorem nodup_templatesAmong {children : List (Text × Entry)} (h : children.Nodup) :
    (templatesAmong children).Nodup := by
  refine (List.mergeSort_perm _ _).nodup_iff.2 (List.Nodup.filterMap (f := template?) ?_ h)
  intro e e' t he he'
  rw [(template?_eq_some_iff.1 he).2, (template?_eq_some_iff.1 he').2]

/-- The templates of a place are in the order of their names, and no two have one name. -/
theorem pairwise_templatesAmong_children :
    (templatesAmong (tree.children place)).Pairwise fun a b => a.1 < b.1 := by
  have htrans : ∀ a b c : Text × Content, Text.precedes a.1 b.1 = true →
      Text.precedes b.1 c.1 = true → Text.precedes a.1 c.1 = true :=
    fun _ _ _ => Text.precedes_trans
  have htotal : ∀ a b : Text × Content,
      (Text.precedes a.1 b.1 || Text.precedes b.1 a.1) = true :=
    fun a b => Text.precedes_total a.1 b.1
  have hsorted : (templatesAmong (tree.children place)).Pairwise fun a b =>
      Text.precedes a.1 b.1 = true :=
    List.pairwise_mergeSort htrans htotal _
  refine (hsorted.and (nodup_templatesAmong Tree.nodup_children)).imp_of_mem ?_
  intro a b ha hb ⟨hle, hne⟩
  rcases Text.precedes_iff.1 hle with hlt | heq
  · exact hlt
  · -- one name stands for one file, so the two templates would be one
    have hget := Tree.mem_children_iff.1 (mem_templatesAmong_iff.1 ha).2
    have hget' := Tree.mem_children_iff.1 (mem_templatesAmong_iff.1 hb).2
    rw [heq, hget'] at hget
    have hcontent : b.2 = a.2 := by simpa using hget
    exact absurd (Prod.ext heq hcontent.symm) hne

/-- No template occurs twice in order. -/
theorem nodup_of_pairwise {ts : List (Text × Content)} (h : ts.Pairwise fun a b => a.1 < b.1) :
    ts.Nodup := by
  refine h.imp fun hlt heq => ?_
  rw [heq] at hlt
  exact List.lt_irrefl _ hlt

/-- Two lists of templates in order that have the same members are one. -/
theorem eq_of_pairwise_of_mem_iff {ts ts' : List (Text × Content)}
    (h : ts.Pairwise fun a b => a.1 < b.1) (h' : ts'.Pairwise fun a b => a.1 < b.1)
    (hmem : ∀ t, t ∈ ts ↔ t ∈ ts') : ts = ts' := by
  refine List.Perm.eq_of_pairwise (fun a b _ _ hab hba => absurd hba (List.lt_asymm hab)) h h' ?_
  exact (List.perm_ext_iff_of_nodup (nodup_of_pairwise h) (nodup_of_pairwise h')).2 hmem

/-- The templates of a directory are its entries that are templates. -/
theorem hasTemplate_iff_mem (hplace : tree.locate g.dir = .ok place) :
    g.HasTemplate tree t ↔ t ∈ (tree.children place).filterMap template? := by
  simp [HasTemplate, hplace, template?_eq_some_iff, Tree.mem_children_iff, and_comm]

/-- **The templates of a directory** are the files in it whose names end in the right way, in the
order of their names, and no list but this one. -/
theorem templates_eq_ok_iff (hdir : tree.isDirectory g.dir = true) {ts : List (Text × Content)} :
    g.templates tree = .ok ts ↔
      (∀ t, t ∈ ts ↔ g.HasTemplate tree t) ∧ ts.Pairwise fun a b => a.1 < b.1 := by
  have hlookup := Tree.isDirectory_iff.1 hdir
  obtain ⟨place, hplace, -⟩ := Tree.lookup_eq_directory_iff.1 hlookup
  have htemplates : g.templates tree = .ok (templatesAmong (tree.children place)) := by
    simp only [templates, hlookup, hplace]
  have hmem : ∀ t, t ∈ templatesAmong (tree.children place) ↔ g.HasTemplate tree t := by
    intro t
    simp [mem_templatesAmong_iff, Tree.mem_children_iff, HasTemplate, hplace]
  rw [htemplates, Except.ok.injEq]
  constructor
  · rintro rfl
    exact ⟨hmem, pairwise_templatesAmong_children⟩
  · rintro ⟨hts, hsorted⟩
    refine eq_of_pairwise_of_mem_iff pairwise_templatesAmong_children hsorted fun t => ?_
    rw [hmem, hts]

/-- The templates of a directory are its entries that are templates, put in order. -/
theorem templates_eq_ok_of_perm (hplace : tree.locate g.dir = .ok place)
    (hdir : tree.get? place = some .directory) {ts : List (Text × Content)}
    (hperm : ts.Perm ((tree.children place).filterMap template?))
    (hsorted : ts.Pairwise fun a b => a.1 < b.1) : g.templates tree = .ok ts := by
  have hdir := Tree.isDirectory_iff.2 (Tree.lookup_eq_directory_iff.2 ⟨place, hplace, hdir⟩)
  refine (templates_eq_ok_iff hdir).2 ⟨fun t => ?_, hsorted⟩
  rw [hasTemplate_iff_mem hplace, hperm.mem_iff]

theorem exists_templates (hdir : tree.isDirectory g.dir = true) :
    ∃ ts, g.templates tree = .ok ts := by
  have hlookup := Tree.isDirectory_iff.1 hdir
  obtain ⟨place, hplace, -⟩ := Tree.lookup_eq_directory_iff.1 hlookup
  exact ⟨templatesAmong (tree.children place), by simp only [templates, hlookup, hplace]⟩

end TwoWaySql.Generator

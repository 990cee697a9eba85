import Mathlib.Data.List.Forall2
import TwoWaySql.Proofs.Record.Fields
import TwoWaySql.Proofs.Record.Identifier

/-!
# Gathering the fields of a record

A template may refer to a field as often as it likes. What is gathered from its references is told
without the gathering: they have to be consistent, and then there is one field for each name, where
the name comes first. If they are not, the error is about the first reference that is in conflict
with those before it.

## Main definitions

* `Record.Consistent` — references that have a record.
* `Record.firsts` — the references that come first with their names.
* `Record.Represents` — a field of a record stands for a reference.
* `Record.Conflict` — why a reference does not go with those before it.
* `Record.Gathers` — the fields that stand for references.
-/
namespace TwoWaySql

attribute [ext] Field RecordField

namespace Record

open Naming (fieldIdentifier? IsFieldIdentifier)

/-- References that go together: a name has one type, and an identifier that no other name has. -/
structure Consistent (fs : List Field) : Prop where
  types : ∀ f ∈ fs, ∀ g ∈ fs, f.name = g.name → f.type = g.type
  named : ∀ f ∈ fs, ∃ ident, fieldIdentifier? f.name = some ident
  apart : ∀ f ∈ fs, ∀ g ∈ fs, f.name ≠ g.name → fieldIdentifier? f.name ≠ fieldIdentifier? g.name

/-- The references whose names do not occur before them. -/
def firsts : List Field → List Field
  | [] => []
  | f :: fs => f :: (firsts fs).filter (·.name ≠ f.name)

/-- A field of a record has the name, the type and the identifier of a reference. -/
structure Represents (f : Field) (g : RecordField) : Prop where
  name : g.name = f.name
  type : g.type = f.type
  ident : fieldIdentifier? f.name = some g.ident

/-- Why a reference does not go with those before it: its name is there with another type; or it
is new and has no identifier; or it is new and has the identifier of another name. -/
inductive Conflict (file : Text) (before : List Field) (f : Field) : RecordError → Prop
  | type {first : Field} (hfirst : first ∈ before) (hname : first.name = f.name)
      (h : first.type ≠ f.type) :
      Conflict file before f (.conflictingType file f.name first.type f.type)
  | name (hnew : ∀ g ∈ before, g.name ≠ f.name) (h : fieldIdentifier? f.name = none) :
      Conflict file before f (.invalidFieldName file f.name)
  | ident {first : Field} {ident : Text} (hnew : ∀ g ∈ before, g.name ≠ f.name)
      (h : fieldIdentifier? f.name = some ident) (hfirst : first ∈ before)
      (hident : fieldIdentifier? first.name = some ident) :
      Conflict file before f (.collision file ident first.name f.name)

theorem Represents.rightUnique : Relator.RightUnique Represents := fun _ _ _ h h' =>
  RecordField.ext (h.name.trans h'.name.symm) (Option.some.inj (h.ident.symm.trans h'.ident))
    (h.type.trans h'.type.symm)

variable {file : Text} {fs before : List Field} {f : Field} {fields fields' : List RecordField}
  {e e' : RecordError}

/-! ## Consistent references -/

theorem Consistent.mono {fs' : List Field} (h : Consistent fs) (hsub : fs' ⊆ fs) :
    Consistent fs' where
  types f hf g hg := h.types f (hsub hf) g (hsub hg)
  named f hf := h.named f (hsub hf)
  apart f hf g hg := h.apart f (hsub hf) g (hsub hg)

/-- One name has one reference. -/
theorem Consistent.eq_of_name (h : Consistent fs) {g : Field} (hf : f ∈ fs) (hg : g ∈ fs)
    (hname : f.name = g.name) : f = g :=
  Field.ext hname (h.types f hf g hg hname)

/-- A new name with a new identifier goes with the references before it. -/
theorem Consistent.append_singleton {ident : Text} (h : Consistent fs)
    (hname : ∀ g ∈ fs, g.name ≠ f.name) (hident : fieldIdentifier? f.name = some ident)
    (hnew : ∀ g ∈ fs, fieldIdentifier? g.name ≠ some ident) : Consistent (fs ++ [f]) := by
  have hmem : ∀ g, g ∈ fs ++ [f] ↔ g ∈ fs ∨ g = f := by simp
  constructor
  · intro g hg g' hg' hsame
    rcases (hmem g).1 hg with hold | rfl <;> rcases (hmem g').1 hg' with hold' | rfl
    · exact h.types g hold g' hold' hsame
    · exact absurd hsame (hname g hold)
    · exact absurd hsame.symm (hname g' hold')
    · rfl
  · intro g hg
    rcases (hmem g).1 hg with hold | rfl
    · exact h.named g hold
    · exact ⟨ident, hident⟩
  · intro g hg g' hg' hother
    rcases (hmem g).1 hg with hold | rfl <;> rcases (hmem g').1 hg' with hold' | rfl
    · exact h.apart g hold g' hold' hother
    · rw [hident]
      exact hnew g hold
    · rw [hident]
      exact (hnew g' hold').symm
    · exact absurd rfl hother

/-- A reference in conflict with those before it makes them inconsistent. -/
theorem Conflict.not_consistent (h : Conflict file before f e) :
    ¬ Consistent (before ++ [f]) := by
  have hlast : f ∈ before ++ [f] := List.mem_append_right before (List.mem_singleton_self f)
  intro hall
  cases h with
  | type hfirst hname hne =>
      exact hne (hall.types _ (List.mem_append_left [f] hfirst) f hlast hname)
  | name hnew h =>
      obtain ⟨ident, hident⟩ := hall.named f hlast
      rw [h] at hident
      cases hident
  | ident hnew h hfirst hident =>
      exact hall.apart _ (List.mem_append_left [f] hfirst) f hlast (hnew _ hfirst)
        (hident.trans h.symm)

/-- Behind consistent references there is one conflict at most. -/
theorem Conflict.unique (hbefore : Consistent before) (h : Conflict file before f e)
    (h' : Conflict file before f e') : e = e' := by
  cases h with
  | @type first hfirst hname hne =>
      cases h' with
      | @type first' hfirst' hname' hne' =>
          rw [hbefore.types first hfirst first' hfirst' (hname.trans hname'.symm)]
      | name hnew h => exact absurd hname (hnew _ hfirst)
      | ident hnew h hfirst' hident => exact absurd hname (hnew _ hfirst)
  | name hnew h =>
      cases h' with
      | type hfirst hname hne => exact absurd hname (hnew _ hfirst)
      | name hnew' h' => rfl
      | ident hnew' h' hfirst hident =>
          rw [h] at h'
          cases h'
  | @ident first ident hnew h hfirst hident =>
      cases h' with
      | type hfirst' hname hne => exact absurd hname (hnew _ hfirst')
      | name hnew' h' =>
          rw [h] at h'
          cases h'
      | @ident first' ident' hnew' h' hfirst' hident' =>
          obtain rfl : ident = ident' := Option.some.inj (h.symm.trans h')
          have hname : first.name = first'.name := by
            by_contra hne
            exact hbefore.apart _ hfirst _ hfirst' hne (hident.trans hident'.symm)
          rw [hname]

/-! ## First occurrences -/

theorem firsts_subset (fs : List Field) : firsts fs ⊆ fs := by
  induction fs with
  | nil => exact List.Subset.refl []
  | cons f fs ih =>
      rw [firsts]
      exact List.cons_subset_cons f fun g hg => ih (List.mem_filter.1 hg).1

/-- Every name has a first occurrence. -/
theorem exists_mem_firsts (hf : f ∈ fs) : ∃ g ∈ firsts fs, g.name = f.name := by
  induction fs with
  | nil => cases hf
  | cons first fs ih =>
      by_cases hname : first.name = f.name
      · exact ⟨first, List.mem_cons_self, hname⟩
      · have hrest : f ∈ fs := (List.mem_cons.1 hf).resolve_left fun h => hname (h ▸ rfl)
        obtain ⟨g, hg, hgname⟩ := ih hrest
        refine ⟨g, List.mem_cons_of_mem first (List.mem_filter.2 ⟨hg, ?_⟩), hgname⟩
        simpa [hgname] using Ne.symm hname

/-- One more reference comes first with its name if the name is new. -/
theorem firsts_append_singleton (fs : List Field) (f : Field) : firsts (fs ++ [f]) =
    if f.name ∈ fs.map (·.name) then firsts fs else firsts fs ++ [f] := by
  induction fs with
  | nil => rfl
  | cons first fs ih =>
      rw [List.cons_append, firsts, ih, firsts, List.map_cons]
      by_cases hmem : f.name ∈ fs.map (·.name)
      · rw [if_pos hmem, if_pos (List.mem_cons_of_mem _ hmem)]
      · rw [if_neg hmem, List.filter_append]
        by_cases hname : f.name = first.name
        · simp [hname]
        · simp [hname, hmem]

/-! ## Gathered fields -/

/-- The fields that stand for references: these are consistent, and each name has one field, in
the order of the first occurrences. -/
structure Gathers (fs : List Field) (fields : List RecordField) : Prop where
  consistent : Consistent fs
  represents : List.Forall₂ Represents (firsts fs) fields

namespace Gathers

theorem exists_of_mem (h : Gathers fs fields) {g : RecordField} (hg : g ∈ fields) :
    ∃ f ∈ fs, Represents f g := by
  obtain ⟨f, hf, hfg⟩ := (Key.mem_iff_of_forall₂ Represents.rightUnique h.represents).1 hg
  exact ⟨f, firsts_subset fs hf, hfg⟩

theorem exists_mem (h : Gathers fs fields) (hf : f ∈ fs) : ∃ g ∈ fields, Represents f g := by
  obtain ⟨first, hfirst, hname⟩ := exists_mem_firsts hf
  obtain rfl := h.consistent.eq_of_name (firsts_subset fs hfirst) hf hname
  exact Key.exists_mem_of_forall₂ h.represents hfirst

/-- What a search for a name finds stands for a reference of that name. -/
theorem exists_of_find?_name {name : Text} {g : RecordField} (h : Gathers fs fields)
    (hg : fields.find? (·.name = name) = some g) :
    ∃ first ∈ fs, Represents first g ∧ first.name = name := by
  obtain ⟨first, hfirst, hrep⟩ := h.exists_of_mem (List.mem_of_find?_eq_some hg)
  have hname : g.name = name := by simpa using List.find?_some hg
  exact ⟨first, hfirst, hrep, hrep.name.symm.trans hname⟩

/-- A name that no field has is new. -/
theorem name_ne_of_find?_eq_none {name : Text} (h : Gathers fs fields)
    (hnone : fields.find? (·.name = name) = none) : ∀ g ∈ fs, g.name ≠ name := by
  intro g hg hsame
  obtain ⟨r, hr, hrep⟩ := h.exists_mem hg
  refine Key.find?_eq_none_iff.1 hnone ?_
  rw [← hsame, ← hrep.name]
  exact List.mem_map_of_mem hr

/-- An identifier that no field has is new. -/
theorem ident_ne_of_find?_eq_none {ident : Text} (h : Gathers fs fields)
    (hnone : fields.find? (·.ident = ident) = none) :
    ∀ g ∈ fs, fieldIdentifier? g.name ≠ some ident := by
  intro g hg hsame
  obtain ⟨r, hr, hrep⟩ := h.exists_mem hg
  rw [hrep.ident, Option.some.injEq] at hsame
  exact Key.find?_eq_none_iff.1 hnone (hsame ▸ List.mem_map_of_mem hr)

/-- One more reference that is taken gives the fields that stand for it as well. -/
theorem addField_ok (h : Gathers fs fields) (hadd : addField file fields f = .ok fields') :
    Gathers (fs ++ [f]) fields' := by
  rcases addField_eq_ok hadd with ⟨⟨g, hg, htype⟩, rfl⟩ | ⟨ident, hname, hident, hnew, rfl⟩
  · obtain ⟨first, hfirst, hrep, hname⟩ := h.exists_of_find?_name hg
    -- the reference is one of those that are there
    obtain rfl : first = f := Field.ext hname (hrep.type.symm.trans htype)
    refine ⟨h.consistent.mono (by simp [hfirst]), ?_⟩
    rw [firsts_append_singleton, if_pos (List.mem_map_of_mem hfirst)]
    exact h.represents
  · have hnames := h.name_ne_of_find?_eq_none hname
    have hnot : f.name ∉ fs.map (·.name) := by simpa using hnames
    refine ⟨h.consistent.append_singleton hnames hident (h.ident_ne_of_find?_eq_none hnew), ?_⟩
    rw [firsts_append_singleton, if_neg hnot]
    exact List.rel_append h.represents (.cons ⟨rfl, rfl, hident⟩ .nil)

/-- One more reference that is not taken is in conflict with those before it. -/
theorem addField_error (h : Gathers fs fields) (hadd : addField file fields f = .error e) :
    Conflict file fs f e := by
  rw [addField] at hadd
  split at hadd
  · next g hg =>
    split at hadd
    · cases hadd
    · next htype =>
      cases hadd
      obtain ⟨first, hfirst, hrep, hname⟩ := h.exists_of_find?_name hg
      rw [hrep.type] at htype ⊢
      exact .type hfirst hname htype
  · next hname =>
    have hnames := h.name_ne_of_find?_eq_none hname
    split at hadd
    · next hident =>
      cases hadd
      exact .name hnames hident
    · next ident hident =>
      split at hadd
      · next g hg =>
        cases hadd
        obtain ⟨first, hfirst, hrep⟩ := h.exists_of_mem (List.mem_of_find?_eq_some hg)
        have hsame : g.ident = ident := by simpa using List.find?_some hg
        rw [hrep.name]
        exact .ident hnames hident hfirst (hsame ▸ hrep.ident)
      · cases hadd

end Gathers

/-! ## The run over all references -/

theorem gathers_of_foldlM (h : fs.foldlM (addField file) [] = .ok fields) : Gathers fs fields := by
  induction fs using List.reverseRecOn generalizing fields with
  | nil =>
      cases h
      exact ⟨⟨by simp, by simp, by simp⟩, .nil⟩
  | append_singleton fs f ih =>
      rw [List.foldlM_append] at h
      obtain ⟨gathered, hfs, hrest⟩ := Outcome.bind_eq_ok.1 h
      rw [List.foldlM_cons] at hrest
      obtain ⟨fields', hf, hdone⟩ := Outcome.bind_eq_ok.1 hrest
      obtain rfl : fields' = fields := Except.ok.inj hdone
      exact (ih hfs).addField_ok hf

/-- References that are not consistent have a first one in conflict with those before it. -/
theorem exists_conflict_of_foldlM (h : fs.foldlM (addField file) [] = .error e) :
    ∃ before f after, fs = before ++ f :: after ∧ Consistent before ∧
      Conflict file before f e := by
  obtain ⟨before, f, after, gathered, rfl, hbefore, hf⟩ := Outcome.foldlM_eq_error.1 h
  have hgathers := gathers_of_foldlM hbefore
  exact ⟨before, f, after, rfl, hgathers.consistent, hgathers.addField_error hf⟩

theorem exists_foldlM_eq_ok_iff (file : Text) (fs : List Field) :
    (∃ fields, fs.foldlM (addField file) [] = .ok fields) ↔ Consistent fs := by
  constructor
  · rintro ⟨fields, h⟩
    exact (gathers_of_foldlM h).consistent
  · intro hfs
    cases h : fs.foldlM (addField file) [] with
    | ok fields => exact ⟨fields, rfl⟩
    | error e =>
        obtain ⟨before, f, after, rfl, -, hconflict⟩ := exists_conflict_of_foldlM h
        exact absurd (hfs.mono (by simp)) hconflict.not_consistent

theorem foldlM_eq_error_iff : fs.foldlM (addField file) [] = .error e ↔
    ∃ before f after, fs = before ++ f :: after ∧ Consistent before ∧
      Conflict file before f e := by
  constructor
  · exact exists_conflict_of_foldlM
  · rintro ⟨before, f, after, rfl, hbefore, hconflict⟩
    obtain ⟨gathered, hrun⟩ := (exists_foldlM_eq_ok_iff file before).2 hbefore
    have hgathers := gathers_of_foldlM hrun
    rw [List.foldlM_append, hrun, Outcome.ok_bind, List.foldlM_cons]
    cases hf : addField file gathered f with
    | ok fields => exact absurd (hgathers.addField_ok hf).consistent hconflict.not_consistent
    | error e' =>
        obtain rfl := hconflict.unique hbefore (hgathers.addField_error hf)
        rfl

/-- **Gathering fields.** References have a record exactly if they are consistent, in whatever
order they come. Its fields are those of the first occurrences, in order, with names and
identifiers that are all different; each reference has one of them, and every identifier is a name
of a field. Otherwise the error is about the first reference that is in conflict with those before
it. -/
theorem ofFields_of_references (name file : Text) (fs : List Field) :
    ((∃ r, ofFields name file fs = .ok r) ↔ Consistent fs) ∧
    (∀ fs', fs'.Perm fs →
      ((∃ r, ofFields name file fs' = .ok r) ↔ ∃ r, ofFields name file fs = .ok r)) ∧
    (∀ r, ofFields name file fs = .ok r →
      r.name = name ∧ r.templateFile = file ∧ r.constName = Naming.constantName name ∧
      List.Forall₂ Represents (firsts fs) r.fields ∧ Distinct r.fields ∧
      (∀ f ∈ fs, ∃ g ∈ r.fields, Represents f g ∧ ∀ g' ∈ r.fields, g'.name = f.name → g' = g) ∧
      ∀ g ∈ r.fields, IsFieldIdentifier g.ident) ∧
    ∀ e, ofFields name file fs = .error e ↔
      ∃ before f after, fs = before ++ f :: after ∧ Consistent before ∧
        Conflict file before f e := by
  have hok : ∀ fs, (∃ r, ofFields name file fs = .ok r) ↔ Consistent fs := by
    intro fs
    rw [← exists_foldlM_eq_ok_iff file fs]
    simp [ofFields, Outcome.bind_eq_ok]
  have herror : ∀ e, ofFields name file fs = .error e ↔
      fs.foldlM (addField file) [] = .error e := by
    intro e
    simp [ofFields, Outcome.bind_eq_error]
  refine ⟨hok fs, fun fs' hperm => ?_, fun r h => ?_, fun e => (herror e).trans foldlM_eq_error_iff⟩
  · rw [hok, hok]
    exact ⟨fun h => h.mono hperm.symm.subset, fun h => h.mono hperm.subset⟩
  · obtain ⟨fields, hrun, hr⟩ := Outcome.bind_eq_ok.1 h
    obtain rfl := Except.ok.inj hr
    have hgathers := gathers_of_foldlM hrun
    have hdistinct := distinct_of_foldlM hrun
    refine ⟨rfl, rfl, rfl, hgathers.represents, hdistinct, fun f hf => ?_, fun g hg => ?_⟩
    · obtain ⟨g, hg, hrep⟩ := hgathers.exists_mem hf
      refine ⟨g, hg, hrep, fun g' hg' hname => ?_⟩
      exact List.inj_on_of_nodup_map hdistinct.names hg' hg (hname.trans hrep.name.symm)
    · obtain ⟨f, -, hrep⟩ := hgathers.exists_of_mem hg
      exact Naming.isFieldIdentifier_of_fieldIdentifier? hrep.ident

end Record

end TwoWaySql

import TwoWaySql.Proofs.Key
import TwoWaySql.Proofs.Outcome
import TwoWaySql.Record.Basic

/-!
# The fields of a record

The fields of a record are gathered one reference after the other. A reference to a name that is
there changes nothing, and only its type has to be the same; a new name goes to the end. So a
field, once there, stays what it is, and every reference is supplied with its type.

## Main definitions

* `Record.Supplies` — the fields of a record have a name with a type.
* `Record.Distinct` — no two fields of a record share a name or an identifier.
-/
namespace TwoWaySql.Record

/-- Fields have the name of a reference, with its type. -/
def Supplies (fields : List RecordField) (f : Field) : Prop :=
  ∃ g, fields.find? (·.name = f.name) = some g ∧ g.type = f.type

/-- No name and no identifier occurs twice. -/
structure Distinct (fields : List RecordField) : Prop where
  names : (fields.map (·.name)).Nodup
  idents : (fields.map (·.ident)).Nodup

/-- What one more reference does: nothing if its name is there with its type, and otherwise it is
a new name with an identifier that is new as well. -/
theorem addField_eq_ok {file : Text} {fields fields' : List RecordField} {f : Field}
    (h : addField file fields f = .ok fields') :
    (Supplies fields f ∧ fields' = fields) ∨
      ∃ ident, fields.find? (·.name = f.name) = none ∧
        Naming.fieldIdentifier? f.name = some ident ∧ fields.find? (·.ident = ident) = none ∧
        fields' = fields ++ [⟨f.name, ident, f.type⟩] := by
  rw [addField] at h
  split at h
  · next first hfirst =>
    by_cases htype : first.type = f.type
    · rw [if_pos htype] at h
      cases h
      exact .inl ⟨⟨first, hfirst, htype⟩, rfl⟩
    · rw [if_neg htype] at h
      cases h
  · next hnone =>
    split at h
    · cases h
    · next ident hident =>
      split at h
      · cases h
      · next hnew =>
        cases h
        exact .inr ⟨ident, hnone, hident, hnew, rfl⟩

theorem Supplies.addField {file : Text} {fields fields' : List RecordField} {f g : Field}
    (hg : Supplies fields g) (h : addField file fields f = .ok fields') : Supplies fields' g := by
  rcases addField_eq_ok h with ⟨-, rfl⟩ | ⟨ident, -, -, -, rfl⟩
  · exact hg
  · obtain ⟨first, hfirst, htype⟩ := hg
    exact ⟨first, by rw [List.find?_append, hfirst]; rfl, htype⟩

theorem supplies_of_addField {file : Text} {fields fields' : List RecordField} {f : Field}
    (h : addField file fields f = .ok fields') : Supplies fields' f := by
  rcases addField_eq_ok h with ⟨hf, rfl⟩ | ⟨ident, hnone, -, -, rfl⟩
  · exact hf
  · exact ⟨⟨f.name, ident, f.type⟩, by rw [List.find?_append, hnone]; simp, rfl⟩

/-- Gathered fields supply every reference. -/
theorem supplies_of_foldlM {file : Text} {fields fields' : List RecordField} {fs : List Field}
    (h : fs.foldlM (addField file) fields = .ok fields') {f : Field} (hf : f ∈ fs) :
    Supplies fields' f := by
  obtain ⟨before, added, after, hadd, hafter⟩ := Outcome.exists_of_foldlM_eq_ok h hf
  have hkeeps : ∀ fields g fields', Supplies fields f → addField file fields g = .ok fields' →
      Supplies fields' f := fun _ _ _ hfields hg => hfields.addField hg
  exact Outcome.invariant_of_foldlM hkeeps (supplies_of_addField hadd) hafter

theorem Distinct.addField {file : Text} {fields fields' : List RecordField} {f : Field}
    (hfields : Distinct fields) (h : addField file fields f = .ok fields') : Distinct fields' := by
  rcases addField_eq_ok h with ⟨-, rfl⟩ | ⟨ident, hname, -, hident, rfl⟩
  · exact hfields
  · exact ⟨Key.nodup_map_append_singleton_iff.2 ⟨hfields.names, Key.find?_eq_none_iff.1 hname⟩,
      Key.nodup_map_append_singleton_iff.2 ⟨hfields.idents, Key.find?_eq_none_iff.1 hident⟩⟩

/-- The names and the identifiers of gathered fields are distinct. -/
theorem distinct_of_foldlM {file : Text} {fields : List RecordField} {fs : List Field}
    (h : fs.foldlM (addField file) [] = .ok fields) : Distinct fields := by
  have hnone : Distinct [] := ⟨List.nodup_nil, List.nodup_nil⟩
  exact Outcome.invariant_of_foldlM (fun _ _ _ hfields hf => hfields.addField hf) hnone h

/-- A field is found by its name. -/
theorem Distinct.find?_name {fields : List RecordField} (h : Distinct fields) {f : RecordField}
    (hf : f ∈ fields) : fields.find? (·.name = f.name) = some f :=
  (Key.find?_eq_some_iff h.names).2 ⟨hf, rfl⟩

/-- A field is found by its identifier. -/
theorem Distinct.find?_ident {fields : List RecordField} (h : Distinct fields) {f : RecordField}
    (hf : f ∈ fields) : fields.find? (·.ident = f.ident) = some f :=
  (Key.find?_eq_some_iff h.idents).2 ⟨hf, rfl⟩

/-- The record of a template: the stem of its file gives the name, and from the name the constant
is made; the references give the fields. -/
theorem ofTemplate_eq_ok_iff {file stem source suffix : Text} {r : Record}
    {unknown : List UnknownDirective} :
    ofTemplate file stem source suffix = .ok (r, unknown) ↔
      Naming.recordName? stem suffix = some r.name ∧ r.templateFile = file ∧
        r.constName = Naming.constantName r.name ∧
        ∃ extraction, Extraction.ofText source = .ok extraction ∧
          extraction.fields.foldlM (addField file) [] = .ok r.fields ∧
          extraction.unknown = unknown := by
  obtain ⟨name, templateFile, constName, fields⟩ := r
  rw [ofTemplate]
  cases hname : Naming.recordName? stem suffix with
  | none => simp
  | some found =>
      cases hextraction : Extraction.ofText source with
      | error e => simp
      | ok extraction =>
          simp only [ofFields, Outcome.bind_eq_ok, Outcome.pure_eq_ok, Except.ok.injEq,
            Prod.mk.injEq, Option.some.injEq, exists_eq_left']
          constructor
          · rintro ⟨record, ⟨gathered, hfields, rfl⟩, hr, hunknown⟩
            cases hr
            exact ⟨rfl, rfl, rfl, hfields, hunknown⟩
          · rintro ⟨rfl, rfl, rfl, hfields, hunknown⟩
            exact ⟨_, ⟨_, hfields, rfl⟩, rfl, hunknown⟩

/-- The record of a template has the fields that are gathered from its references. -/
theorem ofTemplate_eq_ok {file stem source suffix : Text} {r : Record}
    {unknown : List UnknownDirective} (h : ofTemplate file stem source suffix = .ok (r, unknown)) :
    ∃ extraction, Extraction.ofText source = .ok extraction ∧
      extraction.fields.foldlM (addField file) [] = .ok r.fields := by
  obtain ⟨-, -, -, extraction, hextraction, hfields, -⟩ := ofTemplate_eq_ok_iff.1 h
  exact ⟨extraction, hextraction, hfields⟩

end TwoWaySql.Record

import TwoWaySql.Proofs.Dummy.Strip
import TwoWaySql.Proofs.Outcome

/-!
# What extraction lists

Extraction takes from every directive of the catalog the fields in the places of its signature,
and fails at nothing but a `multi` that does not have three arguments. Stripping does not change
the directives, so the list covers those of the stripped template as well.
-/
namespace TwoWaySql

namespace Keyword

/-- The fields among arguments are those in places of the signature. -/
theorem mem_typedFields {k : Keyword} {args : List Arg} {f : Field} :
    f ∈ k.typedFields args ↔
      ∃ (i : Nat) (role : Role), k.signature[i]? = some (role, f.type) ∧
        args[i]? = some (.field f.name) := by
  rw [typedFields, List.mem_filterMap]
  constructor
  · rintro ⟨⟨⟨role, type⟩, arg⟩, hmem, hf⟩
    obtain ⟨i, hget⟩ := List.mem_iff_getElem?.1 hmem
    obtain ⟨hsignature, harg⟩ := List.getElem?_zip_eq_some.1 hget
    cases arg with
    | field name =>
        cases hf
        exact ⟨i, role, hsignature, harg⟩
    | quoted text => cases hf
    | bare text => cases hf
  · rintro ⟨i, role, hsignature, harg⟩
    have hget := List.getElem?_zip_eq_some (z := ((role, f.type), Arg.field f.name)).2
      ⟨hsignature, harg⟩
    exact ⟨_, List.mem_of_getElem? hget, rfl⟩

end Keyword

namespace Directive

/-- The fields of a directive of the catalog are those among its arguments. -/
theorem eq_typedFields_of_fields {d : Directive} {fields : List Field} (h : d.fields = .ok fields)
    {k : Keyword} (hk : d.keyword? = some k) : fields = k.typedFields d.args := by
  rw [Directive.fields] at h
  rw [hk] at h
  cases k with
  | multi =>
      by_cases hlength : d.args.length = Keyword.multi.arity
      · simp only [hlength, if_true] at h
        cases h
        rfl
      · simp only [hlength, if_false] at h
        cases h
  | _ =>
      cases h
      rfl

/-- Only a `multi` with a wrong number of arguments has no fields. -/
theorem keyword?_of_fields_eq_error {d : Directive} {e : ArityError} (h : d.fields = .error e) :
    d.keyword? = some .multi ∧ d.args.length ≠ Keyword.multi.arity := by
  rw [Directive.fields] at h
  split at h
  · cases h
  · next hk =>
    by_cases hlength : d.args.length = Keyword.multi.arity
    · simp only [hlength, if_true] at h
      cases h
    · exact ⟨hk, hlength⟩
  · cases h

end Directive

namespace Extraction

/-- What is listed for a row of directives has the fields of each. -/
theorem mem_fields_of_ofDirectives {ds : List Directive} {e : Extraction}
    (h : ofDirectives ds = .ok e) {d : Directive} (hd : d ∈ ds) {k : Keyword}
    (hk : d.keyword? = some k) {f : Field} (hf : f ∈ k.typedFields d.args) : f ∈ e.fields := by
  induction ds generalizing e with
  | nil => cases hd
  | cons c rest ih =>
      obtain ⟨fields, hfields, hnext⟩ := Outcome.bind_eq_ok.1 h
      obtain ⟨extraction, hrest, hadd⟩ := Outcome.bind_eq_ok.1 hnext
      cases hadd
      rcases List.mem_cons.1 hd with rfl | hd
      · rw [Directive.eq_typedFields_of_fields hfields hk]
        simp only [add, hk]
        exact List.mem_append_left _ hf
      · have hmem := ih hrest hd
        rw [add]
        cases c.keyword? with
        | none => exact hmem
        | some _ => exact List.mem_append_right _ hmem

/-- A row of directives without a list has a `multi` with a wrong number of arguments. -/
theorem exists_multi_of_ofDirectives {ds : List Directive} {e : ArityError}
    (h : ofDirectives ds = .error e) :
    ∃ d ∈ ds, d.keyword? = some .multi ∧ d.args.length ≠ Keyword.multi.arity := by
  induction ds with
  | nil => cases h
  | cons c rest ih =>
      rcases Outcome.bind_eq_error.1 h with hfields | ⟨fields, -, hnext⟩
      · exact ⟨c, List.mem_cons_self, Directive.keyword?_of_fields_eq_error hfields⟩
      · rcases Outcome.bind_eq_error.1 hnext with hrest | ⟨extraction, -, hadd⟩
        · obtain ⟨d, hd, hmulti⟩ := ih hrest
          exact ⟨d, List.mem_cons_of_mem c hd, hmulti⟩
        · cases hadd

/-- The list of a template has the fields of every directive of the stripped template. -/
theorem mem_fields_of_strip {source : Text} {e : Extraction} (h : ofText source = .ok e)
    {d : Directive} (hd : d ∈ Directive.all (strip source)) {k : Keyword}
    (hk : d.keyword? = some k) {f : Field} (hf : f ∈ k.typedFields d.args) : f ∈ e.fields := by
  obtain ⟨d', hd', hkeyword, hargs⟩ := Directive.exists_mem_all_of_strip hd
  rw [← hargs] at hf
  exact mem_fields_of_ofDirectives h hd' (hkeyword.trans hk) hf

/-- A template without a list has a `multi` with a wrong number of arguments, and so has the
stripped template. -/
theorem exists_multi_of_strip {source : Text} {e : ArityError} (h : ofText source = .error e) :
    ∃ d ∈ Directive.all (strip source),
      d.keyword? = some .multi ∧ d.args.length ≠ Keyword.multi.arity := by
  obtain ⟨d, hd, hk, hlength⟩ := exists_multi_of_ofDirectives h
  obtain ⟨d', hd', hkeyword, hargs⟩ := Directive.exists_mem_all_strip hd
  refine ⟨d', hd', hkeyword.trans hk, ?_⟩
  rw [hargs]
  exact hlength

end Extraction

end TwoWaySql

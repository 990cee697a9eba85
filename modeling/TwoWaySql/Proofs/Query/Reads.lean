import TwoWaySql.Proofs.Extraction
import TwoWaySql.Proofs.Query.Pass
import TwoWaySql.Proofs.Query.Structure

/-!
# What compiling reads

Extraction lists the fields of a template without compiling it. It misses nothing: a directive of
the stripped template reads fields of the list only, so data that agree on the list give the same
query or the same error, and a field that is found missing is in the list. A template without a
list does not compile at all.

## Main definitions

* `Data.AgreeOn` — data that have the same values for fields.
* `Step.fields` — the fields that a step of a pass reads.
-/
namespace TwoWaySql

/-- Two data have the same values for the names of fields. -/
def Data.AgreeOn (fields : List Field) (d d' : Data) : Prop := ∀ f ∈ fields, d f.name = d' f.name

theorem Data.AgreeOn.mono {fields fields' : List Field} {d d' : Data} (h : AgreeOn fields' d d')
    (hsub : ∀ f ∈ fields, f ∈ fields') : AgreeOn fields d d' :=
  fun f hf => h f (hsub f hf)

/-! ## The fields that steps read -/

/-- The fields that a step reads. -/
def Step.fields : Step → List Field
  | .text _ => []
  | .action a _ => a.keyword.typedFields a.args
  | .opens condition _ => Keyword.ifBlock.typedFields [condition]
  | .closes _ => []

/-- The fields and the fault of a step are those of its directive. -/
theorem Directive.fields_of_step? {d : Directive} {s : Step} (h : d.step? = .ok (some s)) :
    ∃ k, d.keyword? = some k ∧ s.fields = k.typedFields d.args ∧
      ∀ data, s.fault? data = k.fault? data d.position d.args := by
  rcases step?_eq_some h with ⟨a, hk, ha, rfl⟩ | ⟨condition, hk, ha, rfl⟩ | ⟨hk, ha, rfl⟩
  · exact ⟨a.keyword, hk, by rw [ha]; rfl, fun data => by rw [ha]; rfl⟩
  · exact ⟨.ifBlock, hk, by rw [ha]; rfl, fun data => by rw [ha]; rfl⟩
  · exact ⟨.endBlock, hk, by rw [ha]; rfl, fun data => by rw [ha]; rfl⟩

namespace Arg

variable {d d' : Data} {position : Position} {arg : Arg}

theorem resolve_congr (h : ∀ name, arg = .field name → d name = d' name) :
    arg.resolve d position = arg.resolve d' position := by
  cases arg with
  | field name =>
      have hname := h name rfl
      simp only [resolve, hname]
  | quoted text => rfl
  | bare text => rfl

end Arg

/-- An argument in a place of the signature has one value in data that agree on the fields. -/
theorem Keyword.resolve_congr {k : Keyword} {args : List Arg} {d d' : Data}
    (h : Data.AgreeOn (k.typedFields args) d d') (i : Nat) {role : Role} {type : FieldType}
    (hi : k.signature[i]? = some (role, type)) (arg : Arg) (harg : args[i]? = some arg)
    (position : Position) : arg.resolve d position = arg.resolve d' position := by
  apply Arg.resolve_congr
  intro name hname
  exact h ⟨name, type⟩ (mem_typedFields.2 ⟨i, role, hi, by rw [harg, hname]⟩)

/-- Data that agree on the fields of a directive make it emit the same. -/
theorem Action.expand_congr {a : Action} {d d' : Data}
    (h : Data.AgreeOn (a.keyword.typedFields a.args) d d') (position : Position) :
    a.expand d position = a.expand d' position := by
  cases a with
  | bind b arg =>
      have hi : b.keyword.signature[0]? = some (.value, b.type) := by
        rw [b.signature_keyword]
        rfl
      have harg := Keyword.resolve_congr h 0 hi arg rfl position
      simp only [expand, harg]
  | inList items =>
      have hitems := Keyword.resolve_congr h 0 rfl items rfl position
      simp only [expand, Arg.resolveList, hitems]
  | multi subTemplate separator items =>
      have hsub := Keyword.resolve_congr h 0 rfl subTemplate rfl position
      have hseparator := Keyword.resolve_congr h 1 rfl separator rfl position
      have hitems := Keyword.resolve_congr h 2 rfl items rfl position
      simp only [expand, Arg.resolveString, Arg.resolveList, hsub, hseparator, hitems]

namespace Pass

variable {style : PlaceholderStyle} {d d' : Data}

/-- Data that agree on the fields of a step make the same of it. -/
theorem step_congr {s : Step} (h : Data.AgreeOn s.fields d d') (pass : Pass) :
    pass.step style d s = pass.step style d' s := by
  cases s with
  | text t => rfl
  | action a p =>
      have hexpand := Action.expand_congr h p
      simp only [step, hexpand]
  | opens condition p =>
      have hcondition := Keyword.resolve_congr h 0 rfl condition rfl p
      simp only [step, Arg.resolveCondition, hcondition]
  | closes p => rfl

theorem run_congr {steps : List Step} (h : ∀ s ∈ steps, Data.AgreeOn s.fields d d') (pass : Pass) :
    run style d pass steps = run style d' pass steps := by
  induction steps generalizing pass with
  | nil => rfl
  | cons s rest ih =>
      have hstep : pass.step style d s = pass.step style d' s :=
        step_congr (h s List.mem_cons_self) pass
      have hrest : (run style d · rest) = (run style d' · rest) :=
        funext (ih fun t ht => h t (List.mem_cons_of_mem s ht))
      rw [run_cons, run_cons, hstep, hrest]

end Pass

namespace Query

theorem compile_of_ofText?_eq_error {cleaned : Text} {e : CompileError}
    (h : Node.ofText? cleaned = .error e) (style : PlaceholderStyle) (data : Data) :
    compile style cleaned data = .error e := by
  rw [compile, h]
  rfl

/-- An error is one of the template as it stands, or the fault of one of its directives. -/
theorem ofText?_or_fault?_of_compile {style : PlaceholderStyle} {cleaned : Text} {data : Data}
    {e : CompileError} (h : compile style cleaned data = .error e) :
    Node.ofText? cleaned = .error e ∨ ∃ d ∈ Directive.all cleaned, ∃ k,
      d.keyword? = some k ∧ k.fault? data d.position d.args = some e := by
  cases hnodes : Node.ofText? cleaned with
  | error e' =>
      rw [compile_of_ofText?_eq_error hnodes, Except.error.injEq] at h
      exact .inl (congrArg Except.error h)
  | ok nodes =>
      obtain ⟨before, s, after, pass, hsteps, -, -, hfault⟩ :=
        (compile_eq_error_iff hnodes style data e).1 h
      have hmem : s ∈ (Layout.ofText cleaned).steps := by
        rw [hsteps]
        exact List.mem_append_right before List.mem_cons_self
      rcases Layout.mem_steps hmem with ⟨t, rfl⟩ | ⟨d, hd, hstep⟩
      · cases hfault
      · obtain ⟨k, hk, -, hstepfault⟩ := Directive.fields_of_step? hstep
        rw [hstepfault] at hfault
        exact .inr ⟨d, hd, k, hk, hfault⟩

/-- Compiling depends on the data only in the fields of the directives. -/
theorem compile_congr {cleaned : Text} {fields : List Field} {d d' : Data}
    (h : ∀ c ∈ Directive.all cleaned, ∀ k, c.keyword? = some k →
      ∀ f ∈ k.typedFields c.args, f ∈ fields)
    (hd : Data.AgreeOn fields d d') (style : PlaceholderStyle) :
    compile style cleaned d = compile style cleaned d' := by
  cases hnodes : Node.ofText? cleaned with
  | error e => rw [compile_of_ofText?_eq_error hnodes, compile_of_ofText?_eq_error hnodes]
  | ok nodes =>
      have hagree : ∀ s ∈ (Layout.ofText cleaned).steps, Data.AgreeOn s.fields d d' := by
        intro s hs
        rcases Layout.mem_steps hs with ⟨t, rfl⟩ | ⟨c, hc, hstep⟩
        · intro f hf
          cases hf
        · obtain ⟨k, hk, hfields, -⟩ := Directive.fields_of_step? hstep
          rw [hfields]
          exact hd.mono (h c hc k hk)
      rw [compile_eq_map_run hnodes, compile_eq_map_run hnodes, Pass.run_congr hagree]

/-- A field that is found missing is one of a directive. -/
theorem exists_field_of_unresolvedField {style : PlaceholderStyle} {cleaned : Text} {data : Data}
    {name : Text} {position : Position}
    (h : compile style cleaned data = .error (.unresolvedField name position)) :
    ∃ d ∈ Directive.all cleaned, ∃ k, d.keyword? = some k ∧
      ∃ f ∈ k.typedFields d.args, f.name = name ∧ data name = none := by
  rcases ofText?_or_fault?_of_compile h with hnodes | ⟨d, hd, k, hk, hfault⟩
  · have hstructural := Node.structural_of_ofText? hnodes
    cases hstructural
  · obtain ⟨i, role, type, arg, hi, harg, hargfault⟩ := Keyword.exists_arg_of_fault? hfault
    rcases (Arg.fault?_eq_some_iff ..).1 hargfault with hresolve | ⟨_, -, -, hmismatch⟩
    · rcases (Arg.resolve_eq_error_iff ..).1 hresolve with ⟨n, rfl, hnone, heq⟩ | ⟨_, -, -, heq⟩
      · cases heq
        have hmem : ⟨name, type⟩ ∈ k.typedFields d.args :=
          Keyword.mem_typedFields.2 ⟨i, role, hi, harg⟩
        exact ⟨d, hd, k, hk, ⟨name, type⟩, hmem, rfl, hnone⟩
      · cases heq
    · cases hmismatch

/-- **Extraction lists everything that is read.** If the fields of a template can be listed, data
that agree on them give the same query or the same error in every style, and a field that is found
missing is in the list. If they cannot, the template has one and the same error for all data. -/
theorem build_reads_extracted (template : Text) :
    (∀ extraction, Extraction.ofText template = .ok extraction → ∀ style,
      (∀ d d', Data.AgreeOn extraction.fields d d' →
        build style template d = build style template d') ∧
      ∀ data name position, build style template data = .error (.unresolvedField name position) →
        ∃ f ∈ extraction.fields, f.name = name) ∧
    ∀ e, Extraction.ofText template = .error e →
      ∃ e', ∀ style data, build style template data = .error e' := by
  constructor
  · intro extraction h style
    constructor
    · intro d d' hd
      have hlisted : ∀ c ∈ Directive.all (strip template), ∀ k, c.keyword? = some k →
          ∀ f ∈ k.typedFields c.args, f ∈ extraction.fields :=
        fun c hc k hk f hf => Extraction.mem_fields_of_strip h hc hk hf
      exact compile_congr hlisted hd style
    · intro data name position herror
      obtain ⟨d, hd, k, hk, f, hf, hname, -⟩ := exists_field_of_unresolvedField herror
      exact ⟨f, Extraction.mem_fields_of_strip h hd hk hf, hname⟩
  · intro e h
    obtain ⟨d, hd, hk, hlength⟩ := Extraction.exists_multi_of_strip h
    cases hnodes : Node.ofText? (strip template) with
    | error e' => exact ⟨e', fun style data => compile_of_ofText?_eq_error hnodes style data⟩
    | ok nodes =>
        obtain ⟨step?, hstep⟩ := Node.exists_step?_of_ofText? hnodes hd
        exact absurd (Directive.length_args_of_step? hstep hk) hlength

private def guardedTemplate : Text := "a /** if .A **/ b /** int .N **/1 /** end **/"

private def guardedData (others : Data) : Data := fun name =>
  if name = "A" then some (.bool true) else if name = "N" then some (.int 7) else others name

/-- Data that differ in a field that is not listed, and a template without a list. -/
theorem build_reads_extracted_guarded :
    Extraction.ofText guardedTemplate = .ok ⟨[⟨"A", .boolean⟩, ⟨"N", .integer⟩], []⟩ ∧
      build .dollar guardedTemplate (guardedData fun _ => none) =
        build .dollar guardedTemplate (guardedData fun _ => some .null) ∧
      Extraction.ofText "/** multi .A **/" = .error ⟨.multi, 1, ⟨0, 1, 1⟩⟩ ∧
      ∃ e, ∀ style data, build style "/** multi .A **/" data = .error e := by
  have hlisted : Extraction.ofText guardedTemplate =
      .ok ⟨[⟨"A", .boolean⟩, ⟨"N", .integer⟩], []⟩ := by decide +kernel
  have hmulti : Extraction.ofText "/** multi .A **/" = .error ⟨.multi, 1, ⟨0, 1, 1⟩⟩ := by
    decide +kernel
  have hagree : Data.AgreeOn [⟨"A", .boolean⟩, ⟨"N", .integer⟩] (guardedData fun _ => none)
      (guardedData fun _ => some .null) := by
    intro f hf
    rcases List.mem_cons.1 hf with rfl | hf
    · rfl
    · rw [List.mem_singleton.1 hf]
      rfl
  have hsame := ((build_reads_extracted guardedTemplate).1 _ hlisted .dollar).1 _ _ hagree
  have hfails := (build_reads_extracted "/** multi .A **/").2 _ hmulti
  exact ⟨hlisted, hsame, hmulti, hfails⟩

end Query

end TwoWaySql

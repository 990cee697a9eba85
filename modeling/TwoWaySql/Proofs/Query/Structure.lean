import Mathlib.Data.List.Basic
import TwoWaySql.Proofs.Query.Spelling

/-!
# The directives behind a tree

What a directive does in the tree is decided by its keyword and the number of its arguments
alone. A template that has no tree is wrong as it stands, whatever the data are; in one that has a
tree every directive of the catalog has the arguments that its signature asks for, and the steps
of its row are those of its directives.

## Main definitions

* `CompileError.structural` — the errors that a template has whatever the data are.
-/
namespace TwoWaySql

/-- Whether an error is one of the template as it stands. -/
def CompileError.structural : CompileError → Bool
  | arity _ => true
  | endWithoutIf _ => true
  | ifWithoutEnd _ => true
  | neverClosed _ => true
  | emptyDirective _ => true
  | _ => false

namespace Directive

/-- The step of a directive has its keyword, its arguments and its place. -/
theorem step?_eq_some {d : Directive} {s : Step} (h : d.step? = .ok (some s)) :
    (∃ a : Action, d.keyword? = some a.keyword ∧ d.args = a.args ∧ s = .action a d.position) ∨
      (∃ condition, d.keyword? = some .ifBlock ∧ d.args = [condition] ∧
        s = .opens condition d.position) ∨
      (d.keyword? = some .endBlock ∧ d.args = [] ∧ s = .closes d.position) := by
  rw [step?] at h
  split at h
  · cases h
  · next arg hk ha => cases h; exact .inl ⟨.bind .param arg, hk, ha, rfl⟩
  · next arg hk ha => cases h; exact .inl ⟨.bind .int arg, hk, ha, rfl⟩
  · next arg hk ha => cases h; exact .inl ⟨.bind .float arg, hk, ha, rfl⟩
  · next arg hk ha => cases h; exact .inl ⟨.bind .string arg, hk, ha, rfl⟩
  · next items hk ha => cases h; exact .inl ⟨.inList items, hk, ha, rfl⟩
  · next t separator items hk ha => cases h; exact .inl ⟨.multi t separator items, hk, ha, rfl⟩
  · next condition hk ha => cases h; exact .inr (.inl ⟨condition, hk, ha, rfl⟩)
  · next hk ha => cases h; exact .inr (.inr ⟨hk, ha, rfl⟩)
  · cases h

/-- Only a directive that the catalog does not have asks for no step. -/
theorem keyword?_of_step?_eq_none {d : Directive} (h : d.step? = .ok none) : d.keyword? = none := by
  rw [step?] at h
  split at h
  · next hk => exact hk
  all_goals cases h

/-- A directive that has a step has as many arguments as its keyword asks for. -/
theorem length_args_of_step? {d : Directive} {step? : Option Step} (h : d.step? = .ok step?)
    {k : Keyword} (hk : d.keyword? = some k) : d.args.length = k.arity := by
  cases step? with
  | none =>
      rw [keyword?_of_step?_eq_none h] at hk
      cases hk
  | some s =>
      rcases step?_eq_some h with ⟨a, hk', ha, -⟩ | ⟨condition, hk', ha, -⟩ | ⟨hk', ha, -⟩
      · rw [hk, Option.some.injEq] at hk'
        rw [ha, hk']
        exact a.length_args
      · rw [hk, Option.some.injEq] at hk'
        rw [ha, hk']
        rfl
      · rw [hk, Option.some.injEq] at hk'
        rw [ha, hk']
        rfl

/-- A directive with a wrong number of arguments has no step. -/
theorem step?_of_length_ne {d : Directive} {k : Keyword} (hk : d.keyword? = some k)
    (h : d.args.length ≠ k.arity) : d.step? = .error (.arity ⟨k, d.args.length, d.position⟩) := by
  cases hstep : d.step? with
  | ok step? => exact absurd (length_args_of_step? hstep hk) h
  | error e =>
      rw [step?] at hstep
      split at hstep
      all_goals cases hstep
      next k' hk' _ _ _ _ _ _ _ _ =>
        rw [hk, Option.some.injEq] at hk'
        rw [hk']

/-- A directive with the arguments that its keyword asks for has a step: an `if` opens a block, an
`end` closes one, and any other emits SQL. -/
theorem exists_step?_of_length {d : Directive} {k : Keyword} (hk : d.keyword? = some k)
    (h : d.args.length = k.arity) : ∃ s, d.step? = .ok (some s) ∧
      match k with
      | .ifBlock => ∃ condition, s = .opens condition d.position
      | .endBlock => s = .closes d.position
      | _ => ∃ a, s = .action a d.position := by
  cases k with
  | multi =>
      obtain ⟨subTemplate, separator, items, ha⟩ := List.length_eq_three.1 h
      simp [step?, hk, ha]
  | endBlock =>
      have ha := List.length_eq_zero_iff.1 h
      simp [step?, hk, ha]
  | _ =>
      obtain ⟨arg, ha⟩ := List.length_eq_one_iff.1 h
      simp [step?, hk, ha]

end Directive

/-- A step that is not text comes from a directive. -/
theorem Layout.mem_steps {source : Text} {s : Step} (h : s ∈ (Layout.ofText source).steps) :
    (∃ t, s = .text t) ∨ ∃ d ∈ Directive.all source, d.step? = .ok (some s) := by
  obtain ⟨⟨directive?, gap⟩, hmem, hs⟩ := List.mem_flatMap.1 h
  rcases List.mem_append.1 hs with hdirective | htext
  · have hzip := (List.of_mem_zip hmem).1
    rw [Option.mem_toList.1 hdirective] at hzip
    rcases List.mem_cons.1 hzip with hnone | hlocated
    · cases hnone
    · obtain ⟨⟨p, span⟩, hspan, hstep⟩ := List.mem_map.1 hlocated
      obtain ⟨d, hd, hd'⟩ := Span.step?_eq_some_iff.1 hstep
      exact .inr ⟨d, List.mem_filterMap.2 ⟨(p, span), hspan, hd⟩, hd'⟩
  · exact .inl ⟨gap, List.mem_singleton.1 htext⟩

namespace Element

theorem mem_ofSpans {p q : Position} {trims : Bool} {gap : Text} {s : Span} {spans : List Span}
    (h : (q, s) ∈ Layout.locate (p.advance gap) spans) : comment q s ∈ ofSpans p trims gap spans := by
  induction spans generalizing p trims gap with
  | nil => cases h
  | cons c rest ih =>
      rw [Layout.locate, Span.text, Position.advance_append] at h
      rcases List.mem_cons.1 h with heq | hrest
      · cases heq
        exact List.mem_cons_of_mem _ List.mem_cons_self
      · exact List.mem_cons_of_mem _ (List.mem_cons_of_mem _ (ih hrest))

/-- An element fails to be a step only if its comment is blank or has a wrong number of
arguments. -/
theorem structural_of_step? {element : Element} {e : CompileError}
    (h : element.step? = .error e) : e.structural = true := by
  cases element with
  | text t => cases h
  | comment p s =>
      simp only [step?] at h
      split at h
      · cases h
        rfl
      · next d _ =>
        rw [Directive.step?] at h
        split at h <;> cases h
        rfl

end Element

namespace Growth

theorem structural_of_addElement {g : Growth} {element : Element} {e : CompileError}
    (h : g.addElement element = .error e) : e.structural = true := by
  rcases Outcome.bind_eq_error.1 h with hstep | ⟨step?, -, hadd⟩
  · exact Element.structural_of_step? hstep
  · cases step? with
    | none => cases hadd
    | some step =>
        cases step with
        | closes p =>
            simp only [add] at hadd
            split at hadd <;> cases hadd
            rfl
        | _ => cases hadd

theorem structural_of_finish {g : Growth} {e : CompileError} (h : g.finish = .error e) :
    e.structural = true := by
  rw [finish] at h
  split at h <;> cases h
  rfl

end Growth

namespace Node

/-- A template without a tree has a structural error. -/
theorem structural_of_ofText? {source : Text} {e : CompileError} (h : ofText? source = .error e) :
    e.structural = true := by
  simp only [ofText?] at h
  split at h
  · cases h
    rfl
  · rcases Outcome.bind_eq_error.1 h with hfold | ⟨g, -, hfinish⟩
    · obtain ⟨_, _, _, _, -, -, hadd⟩ := Outcome.foldlM_eq_error.1 hfold
      exact Growth.structural_of_addElement hadd
    · exact Growth.structural_of_finish hfinish

/-- In a template that has a tree, every directive has its step. -/
theorem exists_step?_of_ofText? {source : Text} {nodes : List Node}
    (h : ofText? source = .ok nodes) {d : Directive} (hd : d ∈ Directive.all source) :
    ∃ step?, d.step? = .ok step? := by
  obtain ⟨-, g, hfold, -⟩ := ofText?_eq_ok_iff.1 h
  obtain ⟨⟨p, s⟩, hlocated, hspan⟩ := List.mem_filterMap.1 hd
  obtain ⟨g', g'', -, hadd, -⟩ := Outcome.exists_of_foldlM_eq_ok hfold (Element.mem_ofSpans hlocated)
  obtain ⟨step?, hstep, -⟩ := Outcome.bind_eq_ok.1 hadd
  simp only [Element.step?, hspan] at hstep
  exact ⟨step?, hstep⟩

end Node

end TwoWaySql

import TwoWaySql.Proofs.Dummy.Strip
import TwoWaySql.Proofs.Outcome

/-!
# Stripping and the three readings of a template

A template is read three ways: as comments, as directives, and as the fields it asks for. None of
them can tell a template from its stripped form but by the places of what it finds. Extraction
needs no second look at the text for that: it sees directives only, and moving a directive moves
what is said about it and nothing else.

## Main definitions

* `ArityError.unplaced`, `UnknownDirective.unplaced`, `Extraction.unplaced` — findings without
  their places.
-/
namespace TwoWaySql

open Outcome (bimap)

/-- The error as if its directive stood at the start of the template. -/
def ArityError.unplaced (e : ArityError) : ArityError := { e with position := .start }

/-- The finding as if its directive stood at the start of the template. -/
def UnknownDirective.unplaced (d : UnknownDirective) : UnknownDirective :=
  { d with position := .start }

/-- What is asked for, as if all directives stood at the start of the template. -/
def Extraction.unplaced (e : Extraction) : Extraction :=
  { e with unknown := e.unknown.map UnknownDirective.unplaced }

namespace Directive

@[simp] theorem keyword?_unplaced (d : Directive) : d.unplaced.keyword? = d.keyword? := rfl

/-- The place of a directive shows in its fields only if there is an error to report. -/
theorem fields_unplaced (d : Directive) :
    d.unplaced.fields = bimap ArityError.unplaced id d.fields := by
  rw [fields, fields, keyword?_unplaced]
  cases hk : d.keyword? with
  | none => rfl
  | some k =>
      cases k with
      | multi =>
          have hargs : d.unplaced.args = d.args := rfl
          by_cases hlength : d.args.length = Keyword.multi.arity
          · simp [hargs, hlength]
          · simp [hlength, unplaced, ArityError.unplaced]
      | _ => rfl

end Directive

namespace Extraction

theorem add_unplaced (d : Directive) (rest : Extraction) (fields : List Field) :
    add d.unplaced rest.unplaced fields = (add d rest fields).unplaced := by
  rw [add, add, Directive.keyword?_unplaced]
  cases d.keyword? <;> rfl

/-- What directives ask for does not depend on where they stand. -/
theorem ofDirectives_map_unplaced (ds : List Directive) :
    ofDirectives (ds.map Directive.unplaced) =
      bimap ArityError.unplaced unplaced (ofDirectives ds) := by
  induction ds with
  | nil => rfl
  | cons d rest ih =>
      rw [List.map_cons, ofDirectives, ofDirectives, Directive.fields_unplaced, ih]
      refine Outcome.bind_bimap fun fields => Outcome.bind_bimap fun extraction => ?_
      rw [id, add_unplaced]
      rfl

end Extraction

/-- **Stripping keeps the directives.** The stripped template has the comments of the template,
each with its body and its trim markers, and so it has the same directives in the same order; and
what is extracted from it is the same, errors included. Only the places differ. -/
theorem strip_keeps_directives (source : Text) :
    (Layout.ofText (strip source)).spans.map
        (fun s => (s.comment, s.body, s.trimsLeft, s.trimsRight)) =
      (Layout.ofText source).spans.map
        (fun s => (s.comment, s.body, s.trimsLeft, s.trimsRight)) ∧
    (Directive.all (strip source)).map Directive.unplaced =
      (Directive.all source).map Directive.unplaced ∧
    bimap ArityError.unplaced Extraction.unplaced (Extraction.ofText (strip source)) =
      bimap ArityError.unplaced Extraction.unplaced (Extraction.ofText source) := by
  have hdirectives := Directive.map_unplaced_all_strip source
  refine ⟨?_, hdirectives, ?_⟩
  · rw [Layout.ofText_strip, Layout.strip, List.map_map]
    refine List.map_congr_left fun s _ => ?_
    simp [Span.comment]
  · rw [Extraction.ofText, Extraction.ofText, ← Extraction.ofDirectives_map_unplaced,
      ← Extraction.ofDirectives_map_unplaced, hdirectives]

end TwoWaySql

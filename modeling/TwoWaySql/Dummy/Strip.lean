import TwoWaySql.Diagnostic
import TwoWaySql.Directive.Layout
import TwoWaySql.Dummy.Shape

/-!
# Stripping

A dummy literal right behind a directive makes the template valid SQL as it stands. It is
removed before compilation, directive and following text staying as they are. A literal that
runs into the text behind it is left alone and reported.
-/
namespace TwoWaySql

/-- A literal behind a directive that was left in place. -/
structure Unstripped where
  /-- The shape of the literal. -/
  shape : Shape
  /-- The literal. -/
  text : Text
  /-- Where the literal starts. -/
  position : Position
deriving DecidableEq, Repr

/-- The literal as a finding about a file. -/
def Unstripped.toDiagnostic (u : Unstripped) (file : Text) : Diagnostic where
  code := .dummyNotStripped
  severity := .warn
  message := "`" ++ u.text ++
    "` after a directive was not stripped; put whitespace after the dummy literal"
  location := some (.atPosition file u.position)
  comparison := .untold

namespace Span

/-- The comment with its dummy literal removed from the gap. -/
def strip (s : Span) : Span :=
  match Literal.dummy? s.gap with
  | some literal => ⟨s.inside, literal.rest⟩
  | none => s

/-- The literal that stays in the gap of a comment at a place. -/
def unstripped? (position : Position) (s : Span) : Option Unstripped :=
  match Literal.dummy? s.gap with
  | some _ => none
  | none =>
    (Literal.starting? s.gap).map fun literal =>
      ⟨literal.shape, literal.text, position.advance s.comment⟩

end Span

namespace Layout

/-- The layout with every dummy literal removed. -/
def strip (l : Layout) : Layout := ⟨l.lead, l.spans.map Span.strip⟩

/-- The literals that stay in a template. -/
def unstripped (l : Layout) : List Unstripped :=
  l.located.filterMap fun (p, span) => span.unstripped? p

end Layout

/-- The template with the dummy literals behind its directives removed. -/
def strip (source : Text) : Text := (Layout.ofText source).strip.text

/-- The literals behind directives that `strip` leaves in place. -/
def unstripped (source : Text) : List Unstripped := (Layout.ofText source).unstripped

end TwoWaySql

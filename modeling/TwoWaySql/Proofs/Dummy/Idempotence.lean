import TwoWaySql.Proofs.Dummy.Shape
import TwoWaySql.Proofs.Dummy.Strip

/-!
# Stripped templates

Taking a literal out brings what follows it up to the comment, and that is a blank or the end of the
gap; a literal that stays runs into other text and still does so afterwards. In either case no gap
of a stripped template starts with a dummy literal, and templates without such gaps are just those
that stripping leaves as they are.
-/
namespace TwoWaySql

namespace Span

/-- What stripping leaves of a gap does not start with a dummy literal. -/
theorem dummy?_gap_strip (s : Span) : Literal.dummy? s.strip.gap = none := by
  rw [strip]
  cases h : Literal.dummy? s.gap with
  | none => exact h
  | some literal =>
      obtain ⟨-, hboundary⟩ := Literal.dummy?_eq_some_iff.1 h
      exact Literal.dummy?_of_atBoundary hboundary

theorem strip_eq_self_iff (s : Span) : s.strip = s ↔ Literal.dummy? s.gap = none := by
  constructor
  · intro h
    have hgap := s.dummy?_gap_strip
    rwa [h] at hgap
  · intro h
    simp only [strip, h]

end Span

theorem Layout.strip_eq_self_iff (l : Layout) :
    l.strip = l ↔ ∀ s ∈ l.spans, Literal.dummy? s.gap = none := by
  have hspans : l.strip = l ↔ l.spans.map Span.strip = l.spans.map id := by
    rw [List.map_id]
    constructor
    · exact congrArg Layout.spans
    · intro h
      rw [strip, h]
  rw [hspans, List.map_inj_left]
  exact forall₂_congr fun s _ => s.strip_eq_self_iff

/-- Stripping leaves a template as it is exactly if no comment has a dummy literal behind it. -/
theorem strip_eq_self_iff (source : Text) :
    strip source = source ↔ ∀ s ∈ (Layout.ofText source).spans, Literal.dummy? s.gap = none := by
  rw [← Layout.strip_eq_self_iff]
  constructor
  · intro h
    rw [← Layout.ofText_strip, h]
  · intro h
    rw [strip, h, Layout.text_ofText]

/-- **Stripping is idempotent.** A stripped template has no dummy literal behind any of its
comments, so stripping it again changes nothing, whether literals were left in place or an opener
has no closer. -/
theorem strip_strip (source : Text) : strip (strip source) = strip source := by
  rw [strip_eq_self_iff, Layout.ofText_strip]
  intro s hs
  obtain ⟨s', -, rfl⟩ := List.mem_map.1 hs
  exact s'.dummy?_gap_strip

/-- One literal goes and one stays, as it runs into a comma; nothing comes up behind them. -/
example : strip (strip "(/** int .A **/1, /** int .B **/2 3) /**".toList) =
    "(/** int .A **/1, /** int .B **/ 3) /**".toList := by decide +kernel

end TwoWaySql

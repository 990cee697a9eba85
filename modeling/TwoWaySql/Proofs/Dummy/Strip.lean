import Mathlib.Data.List.TakeDrop
import TwoWaySql.Dummy.Strip
import TwoWaySql.Extraction
import TwoWaySql.Proofs.Directive.Layout

/-!
# What stripping keeps

Stripping takes literals out of the gaps of a template. What is left of a gap is its end, so no
comment comes up that was not there before and none is lost: the layout of the stripped template
is the stripped layout, and its directives are those of the template but for their places.
-/
namespace TwoWaySql

namespace Shape

theorem eq_append_of_spanTo {last : Char} {t literal rest : Text}
    (h : spanTo last t = some (literal, rest)) : t = literal ++ rest := by
  induction t generalizing literal rest with
  | nil => simp [spanTo] at h
  | cons c t ih =>
      rw [spanTo] at h
      split at h
      · cases h
        rfl
      · obtain ⟨⟨l, r⟩, hspan, heq⟩ := Option.map_eq_some_iff.1 h
        cases heq
        rw [ih hspan, List.cons_append]

theorem eq_append_of_spanDigits (t : Text) : t = (spanDigits t).1 ++ (spanDigits t).2 := by
  simp [spanDigits, List.span_eq_takeWhile_dropWhile]

theorem eq_append_of_spanFraction (t : Text) : t = (spanFraction t).1 ++ (spanFraction t).2 := by
  unfold spanFraction
  split
  · next rest =>
    have hdigits := eq_append_of_spanDigits rest
    split
    · rfl
    · next digits rest' _ h =>
      rw [h] at hdigits
      rw [hdigits, List.cons_append]
  · rfl

theorem eq_append_of_spanNumber {t literal rest : Text}
    (h : spanNumber t = some (literal, rest)) : t = literal ++ rest := by
  have hdigits := eq_append_of_spanDigits t
  have hfraction := eq_append_of_spanFraction (spanDigits t).2
  rw [spanNumber] at h
  split at h
  · cases h
  · next digits rest' _ hspan =>
    rw [hspan] at hdigits hfraction
    simp only [Option.some.injEq, Prod.mk.injEq] at h
    obtain ⟨rfl, rfl⟩ := h
    rw [List.append_assoc, ← hfraction]
    exact hdigits

/-- Reading a literal loses nothing. -/
theorem eq_append_of_read? {shape : Shape} {t literal rest : Text}
    (h : shape.read? t = some (literal, rest)) : t = literal ++ rest := by
  unfold read? at h
  split at h
  · obtain ⟨⟨l, r⟩, hspan, heq⟩ := Option.map_eq_some_iff.1 h
    cases heq
    rw [eq_append_of_spanTo hspan, List.cons_append]
  · obtain ⟨⟨l, r⟩, hspan, heq⟩ := Option.map_eq_some_iff.1 h
    cases heq
    rw [eq_append_of_spanTo hspan, List.cons_append]
  · obtain ⟨⟨l, r⟩, hspan, heq⟩ := Option.map_eq_some_iff.1 h
    cases heq
    rw [eq_append_of_spanNumber hspan, List.cons_append]
  · exact eq_append_of_spanNumber h
  · cases h
    rfl
  · cases h

end Shape

/-- A dummy literal is the start of the text that it is found in. -/
theorem Literal.eq_append_of_dummy? {t : Text} {literal : Literal} (h : dummy? t = some literal) :
    t = literal.text ++ literal.rest := by
  obtain ⟨shape, -, hshape⟩ := List.exists_of_findSome?_eq_some h
  obtain ⟨hread, -⟩ := Option.filter_eq_some_iff.1 hshape
  obtain ⟨⟨l, r⟩, hspan, rfl⟩ := Option.map_eq_some_iff.1 hread
  exact Shape.eq_append_of_read? hspan

namespace Span

@[simp] theorem inside_strip (s : Span) : s.strip.inside = s.inside := by
  rw [strip]
  split <;> rfl

@[simp] theorem trimsLeft_strip (s : Span) : s.strip.trimsLeft = s.trimsLeft := by
  simp [trimsLeft]

@[simp] theorem unmarked_strip (s : Span) : s.strip.unmarked = s.unmarked := by
  simp [unmarked]

@[simp] theorem trimsRight_strip (s : Span) : s.strip.trimsRight = s.trimsRight := by
  simp [trimsRight]

@[simp] theorem body_strip (s : Span) : s.strip.body = s.body := by
  simp [body]

/-- What stripping leaves of a gap is its end. -/
theorem exists_gap_eq_append (s : Span) : ∃ removed, s.gap = removed ++ s.strip.gap := by
  rw [strip]
  split
  · next literal h => exact ⟨literal.text, Literal.eq_append_of_dummy? h⟩
  · exact ⟨[], rfl⟩

end Span

namespace Layout

/-- A stripped layout is as cutting leaves it. -/
theorem CutFrom.map_strip {gap : Text} {spans : List Span} (h : CutFrom gap spans) :
    CutFrom gap (spans.map Span.strip) := by
  induction spans generalizing gap with
  | nil => exact h
  | cons s spans ih =>
      obtain ⟨hopen, hclose, hrest⟩ := h
      obtain ⟨removed, hgap⟩ := s.exists_gap_eq_append
      rw [hgap] at hrest
      refine ⟨hopen, ?_, ih hrest.of_append⟩
      rw [Span.inside_strip]
      exact hclose

/-- The layout of a stripped template is the stripped layout of the template. -/
theorem ofText_strip (source : Text) : ofText (TwoWaySql.strip source) = (ofText source).strip :=
  ofText_append (cutFrom_ofText source).map_strip

end Layout

namespace Directive

/-- The directive as if it stood at the start of its template. -/
def unplaced (d : Directive) : Directive := { d with position := .start }

theorem ofSpan?_strip (p q : Position) (s : Span) :
    (ofSpan? p s.strip).map unplaced = (ofSpan? q s).map unplaced := by
  unfold ofSpan?
  rw [Span.body_strip]
  cases Token.all s.body with
  | nil => rfl
  | cons name args => simp [unplaced]

theorem map_unplaced_locate_strip (p q : Position) (spans : List Span) :
    ((Layout.locate p (spans.map Span.strip)).filterMap fun (p, s) => ofSpan? p s).map unplaced =
      ((Layout.locate q spans).filterMap fun (p, s) => ofSpan? p s).map unplaced := by
  induction spans generalizing p q with
  | nil => rfl
  | cons s spans ih =>
      have hs := ofSpan?_strip p q s
      have hrest := ih (p.advance s.strip.text) (q.advance s.text)
      simp only [List.map_filterMap] at hrest ⊢
      simp only [List.map_cons, Layout.locate, List.filterMap_cons, hs, hrest]

/-- A stripped template has the directives of the template, each with its arguments and trim
markers, in the same order. -/
theorem map_unplaced_all_strip (source : Text) :
    (all (TwoWaySql.strip source)).map unplaced = (all source).map unplaced := by
  rw [all, all, Layout.ofText_strip]
  exact map_unplaced_locate_strip _ _ _

/-- Directives that differ in their places at most have the same keyword and arguments. -/
theorem eq_of_unplaced_eq {d d' : Directive} (h : d.unplaced = d'.unplaced) :
    d.keyword? = d'.keyword? ∧ d.args = d'.args := by
  have hkeyword : d.unplaced.keyword? = d'.unplaced.keyword? := by rw [h]
  have hargs : d.unplaced.args = d'.unplaced.args := by rw [h]
  exact ⟨hkeyword, hargs⟩

theorem exists_mem_of_map_unplaced_eq {ds ds' : List Directive}
    (h : ds.map unplaced = ds'.map unplaced) {d : Directive} (hd : d ∈ ds) :
    ∃ d' ∈ ds', d'.keyword? = d.keyword? ∧ d'.args = d.args := by
  have hm : d.unplaced ∈ ds'.map unplaced := h ▸ List.mem_map_of_mem hd
  obtain ⟨d', hd', heq⟩ := List.mem_map.1 hm
  exact ⟨d', hd', eq_of_unplaced_eq heq⟩

/-- Every directive of the stripped template is there in the template. -/
theorem exists_mem_all_of_strip {source : Text} {d : Directive}
    (hd : d ∈ all (TwoWaySql.strip source)) :
    ∃ d' ∈ all source, d'.keyword? = d.keyword? ∧ d'.args = d.args :=
  exists_mem_of_map_unplaced_eq (map_unplaced_all_strip source) hd

/-- Every directive of a template stays when it is stripped. -/
theorem exists_mem_all_strip {source : Text} {d : Directive} (hd : d ∈ all source) :
    ∃ d' ∈ all (TwoWaySql.strip source), d'.keyword? = d.keyword? ∧ d'.args = d.args :=
  exists_mem_of_map_unplaced_eq (map_unplaced_all_strip source).symm hd

end Directive

end TwoWaySql

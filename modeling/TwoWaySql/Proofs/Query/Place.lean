import TwoWaySql.Proofs.Dummy.Strip
import TwoWaySql.Proofs.Query.Relocation
import TwoWaySql.Proofs.Text.Offset

/-!
# The places of build errors

Building strips a template and compiles what is left, so the places in its errors are places of
the stripped template. The comment that an error belongs to stands further on in the template
itself, by the dummy literals in front of it, and on another line if there is a line feed among
them. The two places are one exactly if no literal was taken out before.

## Main definitions

* `Span.dummy` — the literal that stripping takes out behind a comment.
* `Position.Passes` — how a place of the stripped template lies to that of the template.
-/
namespace TwoWaySql

namespace Span

/-- The literal that stripping takes out of a gap. -/
def dummy (s : Span) : Text :=
  match Literal.dummy? s.gap with
  | some literal => literal.text
  | none => []

theorem gap_eq_dummy_append (s : Span) : s.gap = s.dummy ++ s.strip.gap := by
  rw [dummy, strip]
  cases h : Literal.dummy? s.gap with
  | none => rfl
  | some literal => exact Literal.eq_append_of_dummy? h

theorem text_eq_append (s : Span) : s.text = s.comment ++ s.dummy ++ s.strip.gap := by
  rw [text, List.append_assoc, ← s.gap_eq_dummy_append]

theorem text_strip (s : Span) : s.strip.text = s.comment ++ s.strip.gap := by
  simp [text, comment]

/-- The texts of comments are longer by the literals than those of the stripped comments. -/
theorem byteSize_flatMap_text (spans : List Span) : Text.byteSize (spans.flatMap text) =
    Text.byteSize ((spans.map strip).flatMap text) + Text.byteSize (spans.flatMap dummy) := by
  induction spans with
  | nil => rfl
  | cons s rest ih =>
      have hs := s.text_eq_append
      have hstrip := s.text_strip
      simp only [List.flatMap_cons, List.map_cons, Text.byteSize_append, hs, hstrip, ih]
      omega

/-- Without literals there is nothing to strip. -/
theorem flatMap_text_of_dummy {spans : List Span} (h : spans.flatMap dummy = []) :
    (spans.map strip).flatMap text = spans.flatMap text := by
  induction spans with
  | nil => rfl
  | cons s rest ih =>
      obtain ⟨hs, hrest⟩ := List.append_eq_nil_iff.1 h
      have htext := s.text_eq_append
      rw [hs, List.append_nil, ← s.text_strip] at htext
      rw [List.map_cons, List.flatMap_cons, List.flatMap_cons, ih hrest, htext]

end Span

/-- Whether a place of a stripped text lies before that of the text by what was taken out: the
offsets differ by the size of it, and the places are one only if there is nothing. -/
def Position.Passes (stripped whole : Position) (removed : Text) : Prop :=
  whole.offset = stripped.offset + removed.byteSize ∧ (stripped = whole ↔ removed = [])

/-- The places behind two texts of which one is longer by what was taken out. -/
theorem Position.passes_after {kept whole removed : Text}
    (hsize : whole.byteSize = kept.byteSize + removed.byteSize)
    (hnil : removed = [] → kept = whole) : Passes (after kept) (after whole) removed := by
  refine ⟨by simp [hsize], ?_, fun h => by rw [hnil h]⟩
  intro h
  have hoffset := congrArg Position.offset h
  simp only [offset_after] at hoffset
  exact Text.byteSize_eq_zero_iff.1 (by omega)

namespace Layout

/-- A comment stands before its place in the template by the literals in front of it. -/
theorem place_passes (l : Layout) (i : Nat) :
    Position.Passes (l.strip.place i) (l.place i) ((l.spans.take i).flatMap Span.dummy) := by
  have htake : l.strip.spans.take i = (l.spans.take i).map Span.strip := List.map_take.symm
  rw [place, place, htake]
  refine Position.passes_after ?_ fun h => ?_
  · have hsize := Span.byteSize_flatMap_text (l.spans.take i)
    simp only [strip, Text.byteSize_append, hsize]
    omega
  · rw [strip, Span.flatMap_text_of_dummy h]

/-- The last gap is the end of the text, stripped or not. -/
theorem exists_of_lastGap {spans : List Span} {p q : Position} {gap last : Text}
    (h : lastGap p gap (spans.map Span.strip) = (q, last)) :
    ∃ kept whole, gap ++ (spans.map Span.strip).flatMap Span.text = kept ++ last ∧
      gap ++ spans.flatMap Span.text = whole ++ last ∧ q = p.advance kept ∧
      whole.byteSize = kept.byteSize + Text.byteSize (spans.flatMap Span.dummy) := by
  induction spans generalizing p gap with
  | nil =>
      cases h
      exact ⟨[], [], by simp⟩
  | cons s rest ih =>
      obtain ⟨kept, whole, hkept, hwhole, hq, hsize⟩ := ih h
      refine ⟨gap ++ s.comment ++ kept, gap ++ s.comment ++ s.dummy ++ whole, ?_, ?_, ?_, ?_⟩
      · simp [Span.text_strip, hkept]
      · simp [Span.text_eq_append, hwhole]
      · rw [hq]
        simp [Span.comment]
      · simp only [List.flatMap_cons, Text.byteSize_append, hsize]
        omega

/-- The last gap of a layout holds no whole comment. -/
theorem CutFrom.lastGap {spans : List Span} {gap : Text} (h : CutFrom gap spans) (p : Position) :
    CutFrom (lastGap p gap spans).2 [] := by
  induction spans generalizing p gap with
  | nil => exact h
  | cons s rest ih => exact ih h.2.2 _

end Layout

namespace Query

theorem compile_of_unclosed? {style : PlaceholderStyle} {cleaned : Text} {data : Data}
    {p : Position} (h : (Layout.ofText cleaned).unclosed? = some p) :
    compile style cleaned data = .error (.neverClosed p) := by
  rw [compile, Node.ofText?]
  simp only [h]
  rfl

/-- An opener without a closer stands in the stripped template before its place in the template by
all literals. -/
theorem exists_of_unclosed?_strip {template : Text} {p : Position}
    (h : (Layout.ofText template).strip.unclosed? = some p) :
    ∃ kept whole rest, strip template = kept ++ opener ++ rest ∧
      template = whole ++ opener ++ rest ∧ rest.cut closer = none ∧ p = .after kept ∧
      Position.Passes (.after kept) (.after whole)
        ((Layout.ofText template).spans.flatMap Span.dummy) := by
  have hcutFrom := ((Layout.cutFrom_ofText template).map_strip).lastGap Position.start
  rw [Layout.unclosed?, Layout.strip] at h
  cases hlast : Layout.lastGap Position.start (Layout.ofText template).lead
      ((Layout.ofText template).spans.map Span.strip) with
  | mk q last =>
      rw [hlast] at h hcutFrom
      obtain ⟨⟨before, rest⟩, hcut, rfl⟩ := Option.map_eq_some_iff.1 h
      obtain ⟨kept, whole, hkept, hwhole, rfl, hsize⟩ := Layout.exists_of_lastGap hlast
      have htext := Layout.text_ofText template
      rw [Layout.text, hwhole] at htext
      refine ⟨kept ++ before, whole ++ before, rest, ?_, ?_, hcutFrom before rest hcut, ?_, ?_⟩
      · rw [strip, Layout.text, Layout.strip, hkept, Text.eq_of_cut hcut]
        simp
      · rw [← htext, Text.eq_of_cut hcut]
        simp
      · rw [Position.after, Position.advance_append]
      · refine Position.passes_after ?_ fun hnil => ?_
        · simp only [Text.byteSize_append, hsize]
          omega
        · rw [Span.flatMap_text_of_dummy hnil, hwhole] at hkept
          rw [List.append_cancel_right hkept]

/-- **A build error is placed in the stripped template.** It belongs to a comment, or is about an
opener without a closer, and shows the place of it in the stripped template. In the template the
same comment or opener stands further on by the dummy literals in front of it, so that the place is
right exactly if there are none. -/
theorem position_of_build_error {style : PlaceholderStyle} {template : Text} {data : Data}
    {e : CompileError} (h : build style template data = .error e) :
    (∃ i, DueTo style (Layout.ofText template).strip data e i ∧
      e.position = (Layout.ofText template).strip.place i ∧
      Position.Passes e.position ((Layout.ofText template).place i)
        (((Layout.ofText template).spans.take i).flatMap Span.dummy)) ∨
    ∃ kept whole rest, e = .neverClosed (.after kept) ∧
      strip template = kept ++ opener ++ rest ∧ template = whole ++ opener ++ rest ∧
      rest.cut closer = none ∧
      Position.Passes e.position (.after whole)
        ((Layout.ofText template).spans.flatMap Span.dummy) := by
  rw [build] at h
  cases hunclosed : (Layout.ofText template).strip.unclosed? with
  | none =>
      rw [compile_eq_compileAt (by rw [Layout.ofText_strip, hunclosed]), Layout.ofText_strip] at h
      obtain ⟨i, hdue, hplace⟩ := exists_dueTo h
      refine .inl ⟨i, hdue, hplace, ?_⟩
      rw [hplace]
      exact Layout.place_passes _ i
  | some p =>
      rw [compile_of_unclosed? (by rw [Layout.ofText_strip, hunclosed])] at h
      cases h
      obtain ⟨kept, whole, rest, hstrip, htemplate, hrest, rfl, hpasses⟩ :=
        exists_of_unclosed?_strip hunclosed
      exact .inr ⟨kept, whole, rest, rfl, hstrip, htemplate, hrest, hpasses⟩

/-- A template with a literal over two lines in front of a second directive. -/
private def twoLineTemplate : Text := "a = /** string .A **/'x\ny' AND b = /** int .B **/1"

private def twoLineData : Data := fun name => if name = "A" then some (.string "s") else none

private def twoLineError : CompileError := .unresolvedField "B" ⟨30, 1, 31⟩

private theorem build_twoLineTemplate :
    build .question twoLineTemplate twoLineData = .error twoLineError := by
  have hfails : (match build .question twoLineTemplate twoLineData with
      | .ok _ => none
      | .error e => some e) = some twoLineError := by decide +kernel
  cases h : build .question twoLineTemplate twoLineData with
  | ok query => simp [h] at hfails
  | error e =>
      rw [h] at hfails
      rw [Option.some.inj hfails]

theorem position_of_build_error_twoLine :
    build .question twoLineTemplate twoLineData = .error twoLineError ∧
      DueTo .question (Layout.ofText twoLineTemplate).strip twoLineData twoLineError 1 ∧
      (Layout.ofText twoLineTemplate).place 1 = ⟨35, 2, 12⟩ := by
  have hcount : (Layout.ofText twoLineTemplate).strip.spans.length = 2 := by decide +kernel
  have hfirst : twoLineError.position ≠ (Layout.ofText twoLineTemplate).strip.place 0 := by
    decide +kernel
  refine ⟨build_twoLineTemplate, ?_, by decide +kernel⟩
  rcases position_of_build_error build_twoLineTemplate with ⟨i, hdue, hplace, -⟩ | hnever
  · obtain rfl | rfl : i = 0 ∨ i = 1 := by
      have hlt := hdue.1
      omega
    · exact absurd hplace hfirst
    · exact hdue
  · obtain ⟨_, _, _, h, -⟩ := hnever
    cases h

/-- No directive of the template stands at the place that is reported. -/
theorem build_error_off_directives :
    build .question twoLineTemplate twoLineData = .error twoLineError ∧
      twoLineError.position ∉ (Layout.ofText twoLineTemplate).located.map (·.1) ∧
      (Layout.ofText twoLineTemplate).unclosed? = none :=
  ⟨build_twoLineTemplate, by decide +kernel, by decide +kernel⟩

end Query

end TwoWaySql

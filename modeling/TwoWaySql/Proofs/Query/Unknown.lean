import TwoWaySql.Proofs.Query.Place
import TwoWaySql.Proofs.Query.Spelling

/-!
# Templates of unknown directives

A directive that the catalog does not have writes nothing and reads nothing: a template of such
directives alone is built into its gaps, whatever the data are. The stripping before it asks for no
keyword, though. A literal behind an unknown directive goes like any other, and only where there is
none are the gaps those of the template.

## Main definitions

* `Span.Unknown` — the comments that the catalog has nothing for.
* `Layout.gaps` — a template without its comments.
-/
namespace TwoWaySql

/-- Whether the body of a comment is not blank, its keyword is not in the catalog, and it has no
trim markers. -/
structure Span.Unknown (s : Span) : Prop where
  /-- The body has a first token, which is no keyword. -/
  word : ∃ name args, Token.all s.body = name :: args ∧ Keyword.ofWord? name = none
  /-- The blanks before the comment stay. -/
  left : s.trimsLeft = false
  /-- The blanks behind the comment stay. -/
  right : s.trimsRight = false

theorem Span.Unknown.strip {s : Span} (h : s.Unknown) : s.strip.Unknown where
  word := by
    rw [Span.body_strip]
    exact h.word
  left := by rw [Span.trimsLeft_strip, h.left]
  right := by rw [Span.trimsRight_strip, h.right]

namespace Layout

/-- The text of a template without its comments. -/
def gaps (l : Layout) : Text := l.lead ++ l.spans.flatMap Span.gap

/-- The gaps lose by stripping what is taken out of them. -/
theorem length_gaps (l : Layout) :
    l.gaps.length = l.strip.gaps.length + (l.spans.flatMap Span.dummy).length := by
  have hspans : ∀ spans : List Span, (spans.flatMap Span.gap).length =
      ((spans.map Span.strip).flatMap Span.gap).length + (spans.flatMap Span.dummy).length := by
    intro spans
    induction spans with
    | nil => rfl
    | cons s spans ih =>
        have hgap := congrArg List.length s.gap_eq_dummy_append
        simp only [List.length_append, List.flatMap_cons, List.map_cons, ih] at hgap ⊢
        omega
  have hgaps := hspans l.spans
  simp only [gaps, strip, List.length_append]
  omega

/-- Stripping leaves the gaps as they are exactly if no comment has a literal behind it. -/
theorem gaps_strip_eq_iff (l : Layout) :
    l.strip.gaps = l.gaps ↔ ∀ s ∈ l.spans, s.dummy = [] := by
  rw [← List.flatMap_eq_nil_iff]
  constructor
  · intro h
    have hlength := l.length_gaps
    rw [h] at hlength
    exact List.length_eq_zero_iff.1 (by omega)
  · intro h
    have hgap : ∀ s ∈ l.spans, s.strip.gap = s.gap := by
      intro s hs
      have hdummy := List.flatMap_eq_nil_iff.1 h s hs
      rw [s.gap_eq_dummy_append, hdummy, List.nil_append]
    have hmap : l.strip.spans.map Span.gap = l.spans.map Span.gap := by
      rw [strip, List.map_map]
      exact List.map_congr_left hgap
    rw [gaps, gaps, List.flatMap_def, List.flatMap_def, hmap, strip]

/-- What stripping leaves of the last gap is its end. -/
theorem exists_lastGap_eq_append (spans : List Span) (p q : Position) (removed gap : Text) :
    ∃ more, (lastGap q (removed ++ gap) spans).2 =
      more ++ (lastGap p gap (spans.map Span.strip)).2 := by
  induction spans generalizing p q removed gap with
  | nil => exact ⟨removed, rfl⟩
  | cons s spans ih =>
      obtain ⟨taken, hgap⟩ := s.exists_gap_eq_append
      rw [List.map_cons, lastGap, lastGap, hgap]
      exact ih _ _ taken s.strip.gap

/-- Stripping opens no comment. -/
theorem unclosed?_strip {l : Layout} (h : l.unclosed? = none) : l.strip.unclosed? = none := by
  obtain ⟨more, hmore⟩ := exists_lastGap_eq_append l.spans Position.start Position.start [] l.lead
  simp only [unclosed?, Option.map_eq_none_iff, strip] at h ⊢
  rw [List.nil_append] at hmore
  rw [hmore] at h
  exact Text.cut_eq_none_of_append h

end Layout

namespace Node

/-- Texts as nodes; empty texts have none. -/
def texts (ts : List Text) : List Node := (ts.filter fun t => !t.isEmpty).map text

theorem texts_cons (t : Text) (ts : List Text) : texts (t :: ts) = texts [t] ++ texts ts := by
  cases t <;> rfl

theorem expandAll_texts (data : Data) (ts : List Text) :
    expandAll data (texts ts) = .ok ((ts.filter fun t => !t.isEmpty).map Piece.text) := by
  rw [texts]
  induction ts.filter fun t => !t.isEmpty with
  | nil => rfl
  | cons t ts ih => simp [expandAll, expand, ih]

end Node

/-- The query of texts is their text. -/
theorem Query.ofPieces_texts (style : PlaceholderStyle) (ts : List Text) :
    ofPieces style ((ts.filter fun t => !t.isEmpty).map Piece.text) = ⟨ts.flatten, []⟩ := by
  have hpieces : ∀ ts : List Text, Piece.sql style 0 (ts.map Piece.text) = ts.flatten ∧
      Piece.args (ts.map Piece.text) = [] := by
    intro ts
    induction ts with
    | nil => exact ⟨rfl, rfl⟩
    | cons t ts ih => simp [Piece.sql, Piece.args, ih]
  rw [ofPieces, (hpieces _).1, (hpieces _).2, List.flatten_filter_not_isEmpty]

namespace Growth

/-- A comment of an unknown directive adds nothing to the tree. -/
theorem addElement_of_unknown {s : Span} (h : s.Unknown) (g : Growth) (p : Position) :
    g.addElement (.comment p s) = .ok g := by
  obtain ⟨name, args, htokens, hname⟩ := h.word
  have hstep : (Element.comment p s).step? = .ok none := by
    simp [Element.step?, Directive.ofSpan?, htokens, Directive.step?, Directive.keyword?, hname]
  rw [addElement, hstep]
  rfl

theorem addElement_text (t : Text) (nodes : List Node) :
    addElement ⟨nodes, []⟩ (.text t) = .ok ⟨(Node.texts [t]).reverse ++ nodes, []⟩ := by
  cases t <;> rfl

/-- A row of unknown directives adds the gaps between them. -/
theorem foldlM_addElement_of_unknown {spans : List Span} (h : ∀ s ∈ spans, s.Unknown)
    (p : Position) (gap : Text) (nodes : List Node) :
    (Element.ofSpans p false gap spans).foldlM addElement ⟨nodes, []⟩ =
      .ok ⟨(Node.texts (gap :: spans.map Span.gap)).reverse ++ nodes, []⟩ := by
  induction spans generalizing p gap nodes with
  | nil =>
      simp only [Element.ofSpans, Element.trimmed, Bool.false_eq_true, if_false,
        List.foldlM_cons, addElement_text, Outcome.ok_bind]
      rfl
  | cons s spans ih =>
      have hs := h s List.mem_cons_self
      have hrest : ∀ s ∈ spans, s.Unknown := fun s' hs' => h s' (List.mem_cons_of_mem s hs')
      simp only [Element.ofSpans, Element.trimmed, hs.left, hs.right, Bool.false_eq_true, if_false,
        List.foldlM_cons, addElement_text, addElement_of_unknown hs, Outcome.ok_bind, ih hrest]
      rw [List.map_cons, Node.texts_cons gap (s.gap :: _), List.reverse_append, List.append_assoc]

end Growth

namespace Query

/-- A template whose directives are unknown compiles to its gaps. -/
theorem compile_of_unknown {cleaned : Text}
    (hclosed : (Layout.ofText cleaned).unclosed? = none)
    (h : ∀ s ∈ (Layout.ofText cleaned).spans, s.Unknown) (style : PlaceholderStyle) (data : Data) :
    compile style cleaned data = .ok ⟨(Layout.ofText cleaned).gaps, []⟩ := by
  have hnodes : Node.ofText? cleaned = .ok (Node.texts ((Layout.ofText cleaned).lead ::
      (Layout.ofText cleaned).spans.map Span.gap)) := by
    have hrun := Growth.foldlM_addElement_of_unknown h Position.start (Layout.ofText cleaned).lead []
    refine Node.ofText?_eq_ok_iff.2 ⟨hclosed, _, hrun, ?_⟩
    simp [Growth.finish]
  rw [compile, hnodes, Outcome.ok_bind, Node.expandAll_texts, Outcome.ok_bind, ofPieces_texts]
  rfl

/-- **Unknown directives write nothing.** A template without an open comment whose directives are
all unknown and without trim markers is built, in every style and for all data, into a query
without arguments. Its text is that of the stripped gaps: the template without its comments, if and
only if no comment has a dummy literal behind it. -/
theorem build_of_unknown {template : Text}
    (hclosed : (Layout.ofText template).unclosed? = none)
    (h : ∀ s ∈ (Layout.ofText template).spans, s.Unknown) (style : PlaceholderStyle) (data : Data) :
    build style template data = .ok ⟨(Layout.ofText template).strip.gaps, []⟩ ∧
      ((Layout.ofText template).strip.gaps = (Layout.ofText template).gaps ↔
        ∀ s ∈ (Layout.ofText template).spans, s.dummy = []) := by
  refine ⟨?_, Layout.gaps_strip_eq_iff _⟩
  have hstrip := Layout.ofText_strip template
  rw [build, compile_of_unknown, hstrip]
  · rw [hstrip]
    exact Layout.unclosed?_strip hclosed
  · rw [hstrip]
    intro s hs
    obtain ⟨s', hs', rfl⟩ := List.mem_map.1 hs
    exact (h s' hs').strip

private def noteTemplate : Text := "a /** note: the id **/b"

private def noData : Data := fun _ => none

theorem build_of_unknown_note :
    (Layout.ofText noteTemplate).unclosed? = none ∧
      (∀ s ∈ (Layout.ofText noteTemplate).spans, s.Unknown) ∧
      build .question noteTemplate noData = .ok ⟨(Layout.ofText noteTemplate).gaps, []⟩ := by
  have hclosed : (Layout.ofText noteTemplate).unclosed? = none := by decide +kernel
  have hspans : (Layout.ofText noteTemplate).spans = [⟨" note: the id ", "b"⟩] := by
    decide +kernel
  have hunknown : ∀ s ∈ (Layout.ofText noteTemplate).spans, s.Unknown := by
    rw [hspans]
    intro s hs
    obtain rfl := List.mem_singleton.1 hs
    exact ⟨⟨"note:", _, rfl, by decide⟩, by decide, by decide⟩
  obtain ⟨hbuild, hgaps⟩ := build_of_unknown hclosed hunknown .question noData
  have hdummy : ∀ s ∈ (Layout.ofText noteTemplate).spans, s.dummy = [] := by
    rw [hspans]
    decide
  rw [hgaps.2 hdummy] at hbuild
  exact ⟨hclosed, hunknown, hbuild⟩

private def numberTemplate : Text := "a /** note this is ornamental **/1 b"

/-- A number behind an unknown directive is taken out of the query. -/
theorem build_drops_number_of_unknown :
    (Layout.ofText numberTemplate).unclosed? = none ∧
      (∀ s ∈ (Layout.ofText numberTemplate).spans, s.Unknown) ∧
      (Layout.ofText numberTemplate).gaps = "a 1 b" ∧
      (build .question numberTemplate noData).map sql = .ok "a  b" := by
  have hspans : (Layout.ofText numberTemplate).spans =
      [⟨" note this is ornamental ", "1 b"⟩] := by decide +kernel
  refine ⟨by decide +kernel, ?_, by decide +kernel, by decide +kernel⟩
  rw [hspans]
  intro s hs
  obtain rfl := List.mem_singleton.1 hs
  exact ⟨⟨"note", _, rfl, by decide⟩, by decide, by decide⟩

end Query

end TwoWaySql

import TwoWaySql.Directive.Basic
import TwoWaySql.Proofs.Text.Cut

/-!
# Layouts and their texts

A layout is the cut of some template exactly if its openers and closers are the first of their
kind and no whole comment is left in its last gap. Such a layout is found again in its text,
which is what lets a layout be changed and written out: `Layout.ofText_text_iff`.
-/
namespace TwoWaySql.Layout

/-- Whether a gap and the spans behind it are as cutting leaves them. -/
def CutFrom (gap : Text) : List Span → Prop
  | [] => ∀ before rest, gap.cut opener = some (before, rest) → rest.cut closer = none
  | s :: spans =>
    (gap ++ opener).cut opener = some (gap, []) ∧
      (s.inside ++ closer).cut closer = some (s.inside, []) ∧ CutFrom s.gap spans

theorem ofText_of_cut {source lead rest inside rest' : Text}
    (hopen : source.cut opener = some (lead, rest))
    (hclose : rest.cut closer = some (inside, rest')) :
    ofText source = ⟨lead, ⟨inside, (ofText rest').lead⟩ :: (ofText rest').spans⟩ := by
  rw [ofText]
  split
  · next h => simp [hopen] at h
  · next h =>
    rw [hopen] at h
    cases h
    split
    · next h => simp [hclose] at h
    · next h =>
      rw [hclose] at h
      cases h
      rfl

theorem ofText_of_not_cut {source : Text}
    (h : ∀ before rest, source.cut opener = some (before, rest) → rest.cut closer = none) :
    ofText source = ⟨source, []⟩ := by
  rw [ofText]
  split
  · rfl
  · next hopen =>
    split
    · rfl
    · next hclose => simp [h _ _ hopen] at hclose

theorem cutFrom_ofText (source : Text) : CutFrom (ofText source).lead (ofText source).spans := by
  fun_induction ofText source with
  | case1 source h =>
      intro before rest h'
      simp [h] at h'
  | case2 source lead rest h h' =>
      intro before rest' h''
      rw [h] at h''
      cases h''
      exact h'
  | case3 source lead rest h inside rest' h' next ih =>
      exact ⟨Text.cut_of_cut h, Text.cut_of_cut h', ih⟩

/-- A layout whose comments are the first in its text is found again. -/
theorem ofText_append {gap : Text} {spans : List Span} (h : CutFrom gap spans) :
    ofText (gap ++ spans.flatMap Span.text) = ⟨gap, spans⟩ := by
  induction spans generalizing gap with
  | nil =>
      rw [List.flatMap_nil, List.append_nil]
      exact ofText_of_not_cut h
  | cons s spans ih =>
      obtain ⟨hopen, hclose, hrest⟩ := h
      have hopen' := Text.cut_append hopen
        (s.inside ++ closer ++ (s.gap ++ spans.flatMap Span.text))
      have hclose' := Text.cut_append hclose (s.gap ++ spans.flatMap Span.text)
      have htext : gap ++ (s :: spans).flatMap Span.text =
          gap ++ opener ++ (s.inside ++ closer ++ (s.gap ++ spans.flatMap Span.text)) := by
        simp [Span.text, Span.comment]
      rw [htext, ofText_of_cut hopen' hclose', List.nil_append, ih hrest]

/-- A layout is that of its text exactly if it is as cutting leaves it. -/
theorem ofText_text_iff (l : Layout) : ofText l.text = l ↔ CutFrom l.lead l.spans := by
  constructor
  · intro h
    rw [← h]
    exact cutFrom_ofText l.text
  · intro h
    exact ofText_append h

/-- What is left of a gap when text at its start is taken away is as cutting leaves it. -/
theorem CutFrom.of_append {removed gap : Text} {spans : List Span}
    (h : CutFrom (removed ++ gap) spans) : CutFrom gap spans := by
  cases spans with
  | nil =>
      intro before rest hopen
      have hocc : removed ++ gap = (removed ++ before) ++ opener ++ rest := by
        simp [Text.eq_of_cut hopen]
      cases hc : (removed ++ gap).cut opener with
      | none => exact absurd hc (Text.cut_ne_none hocc)
      | some r =>
          obtain ⟨u, hu⟩ := Text.exists_append_of_cut hc hocc
          have hnone := h r.1 r.2 hc
          rw [hu] at hnone
          exact Text.cut_eq_none_of_append hnone
  | cons s spans =>
      obtain ⟨hopen, hrest⟩ := h
      rw [List.append_assoc] at hopen
      exact ⟨Text.cut_of_append hopen, hrest⟩

/-- A gap stays as cutting leaves it when text is put in front of it, if the text neither has an
opener nor ends with a part of one. -/
theorem CutFrom.append_left {added gap : Text} {spans : List Span} (h : CutFrom gap spans)
    (hadded : ¬ opener <:+: added) (hlast : ∀ c ∈ added.getLast?, c ∉ opener) :
    CutFrom (added ++ gap) spans := by
  cases spans with
  | nil =>
      intro before rest hopen
      rw [Text.cut_append_left hadded hlast] at hopen
      obtain ⟨⟨before', rest'⟩, hopen', heq⟩ := Option.map_eq_some_iff.1 hopen
      cases heq
      exact h _ _ hopen'
  | cons s spans =>
      obtain ⟨hopen, hrest⟩ := h
      refine ⟨?_, hrest⟩
      rw [List.append_assoc, Text.cut_append_left hadded hlast, hopen]
      rfl

/-! ## The places of comments -/

theorem map_snd_locate (p : Position) (spans : List Span) : (locate p spans).map (·.2) = spans := by
  induction spans generalizing p with
  | nil => rfl
  | cons s spans ih => rw [locate, List.map_cons, ih]

theorem map_located (l : Layout) : l.located.map (·.2) = l.spans := map_snd_locate _ _

theorem exists_text_of_mem_locate {p : Position} {s : Span} {spans : List Span} {u : Text}
    (h : (p, s) ∈ locate (.after u) spans) :
    ∃ before after, u ++ spans.flatMap Span.text = before ++ s.text ++ after ∧
      p = .after before := by
  induction spans generalizing u with
  | nil => simp [locate] at h
  | cons s' spans ih =>
      rw [locate, Position.advance_after] at h
      rcases List.mem_cons.1 h with heq | hrest
      · cases heq
        exact ⟨u, spans.flatMap Span.text, by simp, rfl⟩
      · obtain ⟨before, after, hsource, hp⟩ := ih hrest
        exact ⟨before, after, by simpa using hsource, hp⟩

theorem offset_le_of_mem_locate {p q : Position} {s : Span} {spans : List Span}
    (h : (q, s) ∈ locate p spans) : p.offset ≤ q.offset := by
  induction spans generalizing p with
  | nil => cases h
  | cons s' spans ih =>
      rcases List.mem_cons.1 h with heq | hrest
      · cases heq
        exact Nat.le_refl _
      · have hle := ih hrest
        rw [Position.offset_advance] at hle
        omega

/-- A comment stops before the next one starts. -/
theorem pairwise_located (l : Layout) : l.located.Pairwise fun a b =>
    a.1.offset + a.2.comment.byteSize ≤ b.1.offset := by
  have hlocate : ∀ (spans : List Span) (p : Position), (locate p spans).Pairwise fun a b =>
      a.1.offset + a.2.comment.byteSize ≤ b.1.offset := by
    intro spans
    induction spans with
    | nil => exact fun _ => .nil
    | cons s spans ih =>
        intro p
        refine .cons (fun (q, s') hmem => ?_) (ih _)
        have hle := offset_le_of_mem_locate hmem
        rw [Position.offset_advance, Span.text, Text.byteSize_append] at hle
        dsimp only
        omega
  exact hlocate _ _

/-- Each comment of a template stands, with its gap, at its place in the template. -/
theorem exists_text_of_mem_located {source : Text} {p : Position} {s : Span}
    (h : (p, s) ∈ (ofText source).located) :
    ∃ before after, source = before ++ s.text ++ after ∧ p = .after before := by
  obtain ⟨before, after, hsource, hp⟩ := exists_text_of_mem_locate h
  exact ⟨before, after, (text_ofText source).symm.trans hsource, hp⟩

end TwoWaySql.Layout

namespace TwoWaySql.Directive

/-- The directive in a comment stands where the comment starts. -/
theorem position_of_ofSpan? {p : Position} {s : Span} {d : Directive}
    (h : ofSpan? p s = some d) : d.position = p := by
  rw [ofSpan?] at h
  cases ht : Token.all s.body with
  | nil => simp [ht] at h
  | cons name args =>
      simp only [ht, Option.some.injEq] at h
      rw [← h]

end TwoWaySql.Directive

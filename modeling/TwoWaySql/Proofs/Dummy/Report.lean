import Mathlib.Data.List.Forall2
import TwoWaySql.Proofs.Directive.Scan
import TwoWaySql.Proofs.Dummy.Reading

/-!
# The literals that stay

A gap starts with a literal or it does not, and if it does, the literal either goes or stays. Of
each literal that stays there is a report, which shows it as it stands in the template and where.
Nothing else is reported. A gap that keeps its literal is the same in the stripped template, and a
gap that lost one starts at a boundary, so that stripping again makes the same report.

## Main definitions

* `Span.Keeps` — the comments with a literal behind them that stays.
* `Unstripped.Tells` — what the report of such a literal says.
-/
namespace TwoWaySql

namespace Span

variable {s : Span}

/-- Whether the gap of a comment starts with a literal, and with no dummy literal. -/
structure Keeps (s : Span) : Prop where
  /-- A literal of some shape is a prefix of the gap. -/
  starts : ∃ (shape : Shape) (word : Text), shape.Matches word ∧ word <+: s.gap
  /-- Nothing is removed from the gap. -/
  stays : Literal.dummy? s.gap = none

/-- The literal that stays in the gap of a comment. -/
def kept? (s : Span) : Option (Shape × Text) :=
  match Literal.dummy? s.gap with
  | some _ => none
  | none => (Literal.starting? s.gap).map fun literal => (literal.shape, literal.text)

theorem unstripped?_eq (position : Position) (s : Span) : s.unstripped? position =
    s.kept?.map fun (shape, text) => ⟨shape, text, position.advance s.comment⟩ := by
  rw [unstripped?, kept?]
  cases Literal.dummy? s.gap with
  | some literal => rfl
  | none => cases Literal.starting? s.gap <;> rfl

theorem exists_starting?_of_kept? {shape : Shape} {text : Text} (h : s.kept? = some (shape, text)) :
    Literal.dummy? s.gap = none ∧ ∃ rest, Literal.starting? s.gap = some ⟨shape, text, rest⟩ := by
  rw [kept?] at h
  cases hdummy : Literal.dummy? s.gap with
  | some literal => simp [hdummy] at h
  | none =>
      simp only [hdummy] at h
      obtain ⟨literal, hliteral, heq⟩ := Option.map_eq_some_iff.1 h
      cases heq
      exact ⟨rfl, literal.rest, hliteral⟩

theorem keeps_iff : s.Keeps ↔ s.kept?.isSome = true := by
  constructor
  · intro h
    rw [kept?, h.stays]
    cases hstarting : Literal.starting? s.gap with
    | some literal => rfl
    | none =>
        obtain ⟨shape, word, hword, hprefix⟩ := h.starts
        exact absurd hprefix (Literal.starting?_eq_none_iff.1 hstarting shape word hword)
  · intro h
    obtain ⟨⟨shape, text⟩, hkept⟩ := Option.isSome_iff_exists.1 h
    obtain ⟨hdummy, rest, hstarting⟩ := exists_starting?_of_kept? hkept
    obtain ⟨hmatches, hgap, -⟩ := Literal.longest_of_starting? hstarting
    exact ⟨⟨shape, text, hmatches, rest, hgap.symm⟩, hdummy⟩

instance (s : Span) : Decidable s.Keeps := decidable_of_iff _ keeps_iff.symm

/-- The literal that stays in a gap stays in the stripped one, and no other comes up. -/
theorem kept?_strip (s : Span) : s.strip.kept? = s.kept? := by
  rw [strip, kept?]
  cases hdummy : Literal.dummy? s.gap with
  | none => simp only [kept?, hdummy]
  | some literal =>
      have hboundary := (Literal.dummy?_eq_some_iff.1 hdummy).2
      simp [kept?, hdummy, Literal.dummy?_of_atBoundary hboundary,
        Literal.starting?_of_atBoundary hboundary]

/-- A gap whose literal does not stay has lost it, or has none. -/
theorem goes_or_none_of_not_keeps (h : ¬ s.Keeps) :
    (∃ (shape : Shape) (word : Text), shape.Matches word ∧ s.gap = word ++ s.strip.gap ∧
      Shape.atBoundary s.strip.gap = true) ∨
    s.strip = s ∧ ∀ (shape : Shape) (word : Text), shape.Matches word → ¬ word <+: s.gap := by
  cases hdummy : Literal.dummy? s.gap with
  | some literal =>
      obtain ⟨hmatches, hgap, hboundary⟩ :=
        (Literal.dummyIn?_eq_some_iff_matches (List.Perm.refl Shape.all)).1 hdummy
      have hstrip : s.strip.gap = literal.rest := by
        rw [strip, hdummy]
      rw [hstrip]
      exact .inl ⟨literal.shape, literal.text, hmatches, hgap, hboundary⟩
  | none =>
      refine .inr ⟨by rw [strip, hdummy], ?_⟩
      intro shape word hword hprefix
      exact h ⟨⟨shape, word, hword, hprefix⟩, hdummy⟩

end Span

/-- What the report of a literal behind a comment says: it is the literal that stands in the source
right behind the comment, the longest one of its shape, and the place is that of the end of the
comment. -/
structure Unstripped.Tells (u : Unstripped) (source : Text) (p : Position) (s : Span) : Prop where
  /-- The report shows where the comment stops. -/
  position_eq : u.position = .ofOffset source (s.occurrence p.offset).stop
  /-- The literal stands there. -/
  occurs : Text.OccursAt u.text source (s.occurrence p.offset).stop
  /-- The literal is a literal of the shape. -/
  isLiteral : u.shape.Matches u.text
  /-- The gap starts with the literal. -/
  starts : u.text <+: s.gap
  /-- The gap starts with no longer literal of the shape. -/
  longest : ∀ word, u.shape.Matches word → word <+: s.gap → word <+: u.text

/-- A report is about the literal behind its comment. -/
theorem Unstripped.tells_of_unstripped? {source : Text} {p : Position} {s : Span} {u : Unstripped}
    (hs : (p, s) ∈ (Layout.ofText source).located) (hu : s.unstripped? p = some u) :
    u.Tells source p s := by
  rw [Span.unstripped?_eq] at hu
  obtain ⟨⟨shape, text⟩, hkept, rfl⟩ := Option.map_eq_some_iff.1 hu
  obtain ⟨-, rest, hstarting⟩ := Span.exists_starting?_of_kept? hkept
  obtain ⟨hmatches, hgap, hlongest⟩ := Literal.longest_of_starting? hstarting
  obtain ⟨before, after, hsource, rfl⟩ := Layout.exists_text_of_mem_located hs
  have hstop : (s.occurrence (Position.after before).offset).stop =
      (before ++ s.comment).byteSize := by
    rw [Span.occurrence, Position.offset_after, Text.byteSize_append]
  have hsource' : source = before ++ s.comment ++ text ++ (rest ++ after) := by
    simp [hsource, Span.text, hgap]
  refine ⟨?_, ?_, hmatches, ⟨rest, hgap.symm⟩, hlongest⟩
  · rw [hstop, hsource', List.append_assoc _ text, Position.ofOffset_byteSize_append,
      Position.advance_after]
  · rw [hstop]
    exact ⟨before ++ s.comment, rest ++ after, hsource', rfl⟩

/-- What a search finds of several things is found of just those of which it finds something. -/
theorem forall₂_filter_filterMap {α β : Type} {keeps : α → Bool} {f : α → Option β}
    {R : α → β → Prop} {as : List α} (hkeeps : ∀ a, keeps a = true ↔ (f a).isSome = true)
    (hf : ∀ a ∈ as, ∀ b, f a = some b → R a b) :
    List.Forall₂ R (as.filter keeps) (as.filterMap f) := by
  induction as with
  | nil => exact .nil
  | cons a as ih =>
      have hrest := ih fun a' ha' => hf a' (List.mem_cons_of_mem a ha')
      cases hfa : f a with
      | none =>
          have ha : keeps a ≠ true := by simp [hkeeps, hfa]
          simpa [hfa, ha] using hrest
      | some b =>
          have ha : keeps a = true := by simp [hkeeps, hfa]
          simpa [hfa, ha] using ⟨hf a List.mem_cons_self b hfa, hrest⟩

namespace Layout

/-- The literals that stay in a template, without their places, are those that its comments keep. -/
theorem map_unstripped (l : Layout) :
    l.unstripped.map (fun u => (u.shape, u.text)) = l.spans.filterMap Span.kept? := by
  rw [← l.map_located, List.filterMap_map, unstripped, List.map_filterMap]
  apply List.filterMap_congr
  intro (p, s) _
  dsimp only [Function.comp_apply]
  rw [Span.unstripped?_eq]
  cases s.kept? <;> rfl

end Layout

/-- The literals that stay in a template are in the order of their places. -/
theorem pairwise_unstripped (source : Text) :
    (unstripped source).Pairwise fun u u' => u.position.offset < u'.position.offset := by
  refine (Layout.ofText source).pairwise_located.filterMap _ ?_
  intro (p, s) (p', s') hle u hu u' hu'
  have hpos := Span.byteSize_comment s'
  dsimp only at hu hu' hle
  rw [Span.unstripped?_eq] at hu hu'
  obtain ⟨_, -, rfl⟩ := Option.map_eq_some_iff.1 hu
  obtain ⟨_, -, rfl⟩ := Option.map_eq_some_iff.1 hu'
  simp only [Position.offset_advance]
  omega

/-- **The report of literals that stay is exact.** It has one entry for each comment whose gap
starts with a literal that is not removed, in the order of the comments, and each entry shows that
literal and its place in the source. Any other gap has lost a literal of some shape, and what is
left of it is at a boundary, or starts with no literal of any shape. The stripped template has the
same report but for the places. -/
theorem unstripped_exact (source : Text) :
    List.Forall₂ (fun (p, s) u => u.Tells source p s)
      ((Layout.ofText source).located.filter fun (_, s) => s.Keeps) (unstripped source) ∧
    (∀ s ∈ (Layout.ofText source).spans, s.Keeps ∨
      (∃ (shape : Shape) (word : Text), shape.Matches word ∧ s.gap = word ++ s.strip.gap ∧
        Shape.atBoundary s.strip.gap = true) ∨
      s.strip = s ∧ ∀ (shape : Shape) (word : Text), shape.Matches word → ¬ word <+: s.gap) ∧
    (unstripped (strip source)).map (fun u => (u.shape, u.text)) =
      (unstripped source).map fun u => (u.shape, u.text) := by
  refine ⟨?_, ?_, ?_⟩
  · apply forall₂_filter_filterMap
    · intro (p, s)
      dsimp only
      rw [decide_eq_true_iff, Span.keeps_iff, Span.unstripped?_eq, Option.isSome_map]
    · intro (p, s) hs u hu
      exact Unstripped.tells_of_unstripped? hs hu
  · intro s _
    by_cases hkeeps : s.Keeps
    · exact .inl hkeeps
    · exact .inr (Span.goes_or_none_of_not_keeps hkeeps)
  · rw [unstripped, unstripped, Layout.map_unstripped, Layout.map_unstripped, Layout.ofText_strip,
      Layout.strip, List.filterMap_map]
    apply List.filterMap_congr
    intro s _
    exact s.kept?_strip

/-- A number that runs into a comma stays and is reported, a string before a blank goes. -/
example : unstripped "/** int .A **/1.50.2, /** string .B **/'x' \n/** in .C **/(1" =
    [⟨.number, "1.50", ⟨14, 1, 15⟩⟩] := by decide +kernel

end TwoWaySql

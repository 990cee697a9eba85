import TwoWaySql.Proofs.Directive.Layout

/-!
# Templates put together

Two templates put together have the comments of the first and then those of the second, and where
they meet their gaps are one. That is so if the first has no opener that is still to be closed, and
no opener stands across the place where they meet; cutting is local otherwise.

## Main definitions

* `Text.Straddles` — a pattern stands across the place where two texts meet.
* `Layout.join` — the layout of two templates put together.
-/
namespace TwoWaySql

/-! ## Where texts meet -/

namespace Text

variable {pattern before after t u v : Text}

/-- Whether a pattern starts in a text and ends in the one that follows it. -/
def Straddles (pattern u v : Text) : Prop :=
  ∃ before after, u ++ v = before ++ pattern ++ after ∧
    before.length < u.length ∧ u.length < before.length + pattern.length

/-- A pattern stands across a place if it can be cut so that its start ends the one text and its
end starts the other. -/
theorem straddles_iff : Straddles pattern u v ↔ ∃ n < pattern.length, 0 < n ∧
    pattern.take n <:+ u ∧ pattern.drop n <+: v := by
  constructor
  · rintro ⟨before, after, h, hstart, hstop⟩
    rw [List.append_assoc] at h
    rcases List.append_eq_append_iff.1 h with ⟨x, rfl, -⟩ | ⟨x, rfl, hx⟩
    · simp only [List.length_append] at hstart
      omega
    · -- what the first text has of the pattern is `x`
      simp only [List.length_append] at hstart hstop
      have htake : (x ++ v).take x.length = x := List.take_left
      have hdrop : (x ++ v).drop x.length = v := List.drop_left
      rw [← hx, List.take_append_of_le_length (by omega)] at htake
      rw [← hx, List.drop_append_of_le_length (by omega)] at hdrop
      exact ⟨x.length, by omega, by omega, ⟨before, by rw [htake]⟩, ⟨after, hdrop⟩⟩
  · rintro ⟨n, hn, hpos, ⟨x, hx⟩, ⟨y, hy⟩⟩
    refine ⟨x, y, ?_, ?_, ?_⟩
    · calc
        u ++ v = x ++ (pattern.take n ++ pattern.drop n) ++ y := by
          simp only [← hx, ← hy, List.append_assoc]
        _ = x ++ pattern ++ y := by rw [List.take_append_drop]
    · rw [← hx, List.length_append, List.length_take]
      omega
    · rw [← hx, List.length_append, List.length_take]
      omega

instance (pattern u v : Text) : Decidable (Straddles pattern u v) :=
  decidable_of_iff (∃ n < pattern.length, 0 < n ∧ pattern.take n <:+ u ∧ pattern.drop n <+: v)
    straddles_iff.symm

/-- What stands across the end of a text stands across that of a longer one. -/
theorem Straddles.append_left (h : Straddles pattern u v) (t : Text) :
    Straddles pattern (t ++ u) v := by
  obtain ⟨before, after, heq, hstart, hstop⟩ := h
  refine ⟨t ++ before, after, by simp [heq], ?_, ?_⟩
  · simpa using hstart
  · simp only [List.length_append]
    omega

/-- An occurrence that a text does not have stands behind it, if it does not stand across. -/
theorem length_le_of_not_straddles (hu : u.cut pattern = none) (h : ¬ Straddles pattern u v)
    (heq : u ++ v = before ++ pattern ++ after) : u.length ≤ before.length := by
  refine Nat.le_of_not_lt fun hlt => h ⟨before, after, heq, hlt, Nat.lt_of_not_le fun hstop => ?_⟩
  have hprefix : before ++ pattern <+: u := by
    refine List.prefix_of_prefix_length_le ⟨after, heq.symm⟩ ⟨v, rfl⟩ ?_
    rwa [List.length_append]
  obtain ⟨rest, rfl⟩ := hprefix
  exact cut_ne_none rfl hu

end Text

namespace Layout

/-! ## Layouts -/

/-- A gap and spans, with a layout behind them: the last gap goes on with the lead. -/
def joinFrom (gap : Text) (spans : List Span) (l : Layout) : Layout :=
  match spans with
  | [] => ⟨gap ++ l.lead, l.spans⟩
  | s :: spans =>
    let next := joinFrom s.gap spans l
    ⟨gap, ⟨s.inside, next.lead⟩ :: next.spans⟩

/-- The layout of two templates put together. -/
def join (l l' : Layout) : Layout := joinFrom l.lead l.spans l'

/-- The gap behind the last comment, given a gap and the spans behind it. -/
def lastText (gap : Text) : List Span → Text
  | [] => gap
  | s :: spans => lastText s.gap spans

theorem lastGap_snd (p : Position) (gap : Text) (spans : List Span) :
    (lastGap p gap spans).2 = lastText gap spans := by
  induction spans generalizing p gap with
  | nil => rfl
  | cons s spans ih => exact ih _ _

theorem unclosed?_eq_none_iff {l : Layout} :
    l.unclosed? = none ↔ (lastText l.lead l.spans).cut opener = none := by
  rw [← lastGap_snd Position.start]
  simp [unclosed?]

variable {u v : Text}

/-- Behind a text without an opener, a template has its own comments, and a longer lead. No opener
is left to be closed. -/
theorem ofText_append_of_not_cut (hu : u.cut opener = none)
    (hv : (lastText (ofText v).lead (ofText v).spans).cut opener = none)
    (hjuncture : ¬ Text.Straddles opener u v) :
    ofText (u ++ v) = ⟨u ++ (ofText v).lead, (ofText v).spans⟩ ∧
      (lastText (u ++ (ofText v).lead) (ofText v).spans).cut opener = none := by
  have hcut := Text.cut_append_of_forall fun _ _ => Text.length_le_of_not_straddles hu hjuncture
  have hdone : ofText v = ⟨v, []⟩ → ofText (u ++ v) = ⟨u ++ (ofText v).lead, (ofText v).spans⟩ ∧
      (lastText (u ++ (ofText v).lead) (ofText v).spans).cut opener = none := by
    intro h
    rw [h] at hv ⊢
    rw [show v.cut opener = none from hv, Option.map_none] at hcut
    exact ⟨ofText_of_not_cut (by simp [hcut]), hcut⟩
  cases hopen : v.cut opener with
  | none => exact hdone (ofText_of_not_cut (by simp [hopen]))
  | some r =>
      obtain ⟨lead, rest⟩ := r
      cases hclose : rest.cut closer with
      | none =>
          refine hdone (ofText_of_not_cut fun before rest' h => ?_)
          rw [hopen] at h
          cases h
          exact hclose
      | some r =>
          obtain ⟨inside, rest'⟩ := r
          rw [hopen, Option.map_some] at hcut
          rw [ofText_of_cut hopen hclose] at hv ⊢
          exact ⟨ofText_of_cut hcut hclose, hv⟩

/-- **Cutting two templates put together.** If no opener is left to be closed in either and none
stands across the place where they meet, their layouts are put together, and again no opener is
left to be closed. -/
theorem ofText_join (hu : (ofText u).unclosed? = none) (hv : (ofText v).unclosed? = none)
    (hjuncture : ¬ Text.Straddles opener u v) :
    ofText (u ++ v) = (ofText u).join (ofText v) ∧ (ofText (u ++ v)).unclosed? = none := by
  rw [unclosed?_eq_none_iff] at hu hv ⊢
  fun_induction ofText u with
  | case1 u hopen =>
      obtain ⟨hlayout, hclosed⟩ := ofText_append_of_not_cut hopen hv hjuncture
      rw [hlayout]
      exact ⟨rfl, hclosed⟩
  | case2 u lead rest hopen hclose =>
      exact absurd (hu.symm.trans hopen) (by simp)
  | case3 u lead rest hopen inside rest' hclose next ih =>
      have heq : u = lead ++ opener ++ inside ++ closer ++ rest' := by
        simp [Text.eq_of_cut hopen, Text.eq_of_cut hclose]
      obtain ⟨hnext, hclosed⟩ := ih hu fun hs => hjuncture (heq ▸ hs.append_left _)
      rw [ofText_of_cut (Text.cut_append hopen v) (Text.cut_append hclose v), hnext]
      rw [hnext] at hclosed
      exact ⟨rfl, hclosed⟩

end Layout

end TwoWaySql

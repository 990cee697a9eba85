import TwoWaySql.Text.Basic

/-!
# First occurrences

Cutting a text at a pattern finds the first occurrence of the pattern, if there is one:
`Text.cut_eq_some_iff` and `Text.cut_eq_none_iff`. From that follows what cutting does when the
text is continued, and when its start is taken away.
-/
namespace TwoWaySql.Text

variable {t u pattern before after before' after' : Text}

/-- An occurrence is found by a cut. -/
theorem cut_ne_none (h : t = before ++ pattern ++ after) : t.cut pattern ≠ none := by
  intro hc
  induction before generalizing t with
  | nil =>
      cases t with
      | nil =>
          have hp : pattern = [] := by
            rw [List.nil_append] at h
            exact (List.append_eq_nil_iff.1 h.symm).1
          simp [cut, hp] at hc
      | cons c rest =>
          have hp : pattern.isPrefixOf (c :: rest) = true :=
            List.isPrefixOf_iff_prefix.2 ⟨after, h.symm⟩
          simp [cut, hp] at hc
  | cons c before ih =>
      cases t with
      | nil => simp at h
      | cons d rest =>
          have hrest : rest = before ++ pattern ++ after := by simpa using (List.cons.inj h).2
          rw [cut] at hc
          split at hc
          · cases hc
          · exact ih hrest (Option.map_eq_none_iff.1 hc)

/-- No occurrence stands before the one that a cut finds. -/
theorem length_le_of_cut (h : t.cut pattern = some (before, after))
    (h' : t = before' ++ pattern ++ after') : before.length ≤ before'.length := by
  induction t generalizing before after before' after' with
  | nil =>
      have hlength := length_of_cut h
      simp only [List.length_nil] at hlength
      omega
  | cons c rest ih =>
      rw [cut] at h
      split at h
      · cases h
        exact Nat.zero_le _
      · next hp =>
        obtain ⟨⟨b, a⟩, hb, heq⟩ := Option.map_eq_some_iff.1 h
        cases heq
        cases before' with
        | nil => exact absurd (List.isPrefixOf_iff_prefix.2 ⟨after', h'.symm⟩) hp
        | cons d before' =>
            have hrest : rest = before' ++ pattern ++ after' := by
              simpa using (List.cons.inj h').2
            have hle := ih hb hrest
            simp only [List.length_cons]
            omega

/-- A cut is found exactly where the pattern occurs. -/
theorem cut_eq_none_iff : t.cut pattern = none ↔
    ∀ before after, t ≠ before ++ pattern ++ after := by
  constructor
  · intro h before after ht
    exact cut_ne_none ht h
  · intro h
    cases hc : t.cut pattern with
    | none => rfl
    | some r => exact absurd (eq_of_cut hc) (h r.1 r.2)

/-- Two occurrences with texts of one length before them are one. -/
theorem occurrence_unique (h : before ++ pattern ++ after = before' ++ pattern ++ after')
    (hl : before.length = before'.length) : before = before' ∧ after = after' := by
  rw [List.append_assoc, List.append_assoc] at h
  obtain ⟨hb, ha⟩ := List.append_inj h hl
  exact ⟨hb, List.append_cancel_left ha⟩

/-- A cut is at the first occurrence of the pattern. -/
theorem cut_eq_some_iff : t.cut pattern = some (before, after) ↔
    t = before ++ pattern ++ after ∧
      ∀ before' after', t = before' ++ pattern ++ after' → before.length ≤ before'.length := by
  constructor
  · intro h
    exact ⟨eq_of_cut h, fun before' after' => length_le_of_cut h⟩
  · rintro ⟨ht, hfirst⟩
    cases hc : t.cut pattern with
    | none => exact absurd hc (cut_ne_none ht)
    | some r =>
        have hr := eq_of_cut hc
        have hle := hfirst r.1 r.2 hr
        have hge := length_le_of_cut hc ht
        obtain ⟨hb, ha⟩ := occurrence_unique (ht ▸ hr) (by omega)
        rw [hb, ha]

/-- A text that is continued is cut where it was. -/
theorem cut_append (h : t.cut pattern = some (before, after)) (u : Text) :
    (t ++ u).cut pattern = some (before, after ++ u) := by
  obtain ⟨ht, hfirst⟩ := cut_eq_some_iff.1 h
  refine cut_eq_some_iff.2 ⟨by simp [ht], fun before' after' h' => ?_⟩
  by_cases hlt : before'.length < before.length
  · -- an earlier occurrence would end inside `t`
    have hprefix : before' ++ pattern <+: t := by
      refine List.prefix_of_prefix_length_le ⟨after', h'.symm⟩ ⟨u, rfl⟩ ?_
      simp only [ht, List.length_append]
      omega
    obtain ⟨rest, hrest⟩ := hprefix
    exact hfirst before' rest hrest.symm
  · omega

/-- A text that ends with the first occurrence is cut at its end. -/
theorem cut_of_cut (h : t.cut pattern = some (before, after)) :
    (before ++ pattern).cut pattern = some (before, []) := by
  refine cut_eq_some_iff.2 ⟨by simp, fun before' after' h' => ?_⟩
  have ht : t = before' ++ pattern ++ (after' ++ after) := by rw [eq_of_cut h, h']; simp
  exact length_le_of_cut h ht

/-- The first occurrence stays the first one if text before it is taken away. -/
theorem cut_of_append (h : (u ++ t).cut pattern = some (u ++ before, after)) :
    t.cut pattern = some (before, after) := by
  obtain ⟨ht, hfirst⟩ := cut_eq_some_iff.1 h
  refine cut_eq_some_iff.2 ⟨?_, fun before' after' h' => ?_⟩
  · simpa only [List.append_assoc, List.append_cancel_left_eq] using ht
  · have hle := hfirst (u ++ before') after' (by simp [h'])
    simp only [List.length_append] at hle
    omega

theorem cut_eq_none_of_append (h : (u ++ t).cut pattern = none) : t.cut pattern = none := by
  rw [cut_eq_none_iff] at h ⊢
  intro before after ht
  exact h (u ++ before) after (by simp [ht])

/-- An occurrence in a continued text starts behind the text, if the text neither has one of its
own nor ends with a character of the pattern. -/
theorem length_le_of_occurrence (hu : ¬ pattern <:+: u) (hlast : ∀ c ∈ u.getLast?, c ∉ pattern)
    (h : u ++ t = before ++ pattern ++ after) : u.length ≤ before.length := by
  rw [List.append_assoc] at h
  rcases List.append_eq_append_iff.1 h with ⟨x, rfl, -⟩ | ⟨x, rfl, hx⟩
  · simp
  · rcases List.append_eq_append_iff.1 hx with ⟨y, rfl, -⟩ | ⟨y, rfl, -⟩
    · exact absurd ⟨before, y, by simp⟩ hu
    · -- the pattern starts in `u` and ends behind it, so `u` ends with one of its characters
      rcases List.eq_nil_or_concat x with rfl | ⟨x, c, rfl⟩
      · simp
      · exact absurd (by simp) (hlast c (by simp))

/-- A continued text in whose start no occurrence starts is cut where the rest is. -/
theorem cut_append_of_forall
    (h : ∀ before after, u ++ t = before ++ pattern ++ after → u.length ≤ before.length) :
    (u ++ t).cut pattern = (t.cut pattern).map fun (before, after) => (u ++ before, after) := by
  cases hc : (u ++ t).cut pattern with
  | none => rw [cut_eq_none_of_append hc, Option.map_none]
  | some r =>
      obtain ⟨before, after⟩ := r
      have hle := h before after (eq_of_cut hc)
      have hprefix : u <+: before := by
        refine List.prefix_of_prefix_length_le ⟨t, rfl⟩ ⟨pattern ++ after, ?_⟩ hle
        rw [eq_of_cut hc, List.append_assoc]
      obtain ⟨x, rfl⟩ := hprefix
      rw [cut_of_append hc, Option.map_some]

/-- A text in front of which there is no occurrence, not even in part, is cut where it was. -/
theorem cut_append_left (hu : ¬ pattern <:+: u) (hlast : ∀ c ∈ u.getLast?, c ∉ pattern) :
    (u ++ t).cut pattern = (t.cut pattern).map fun (before, after) => (u ++ before, after) :=
  cut_append_of_forall fun _ _ => length_le_of_occurrence hu hlast

/-- What follows the first occurrence goes on with what follows a later one. -/
theorem exists_append_of_cut (h : t.cut pattern = some (before, after))
    (h' : t = before' ++ pattern ++ after') : ∃ u, after = u ++ after' := by
  have hle := length_le_of_cut h h'
  have ht := eq_of_cut h
  have hsuffix : after' <:+ after := by
    refine List.suffix_of_suffix_length_le ⟨_, h'.symm⟩ ⟨_, ht.symm⟩ ?_
    have hlength := congrArg List.length (h'.symm.trans ht)
    simp only [List.length_append] at hlength
    omega
  obtain ⟨u, hu⟩ := hsuffix
  exact ⟨u, hu.symm⟩

end TwoWaySql.Text

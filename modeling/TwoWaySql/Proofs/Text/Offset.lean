import TwoWaySql.Proofs.Text.Cut

/-!
# Offsets into a text

An offset counts the bytes from the start of a text, and so stands for a prefix of it. Where a
pattern occurs is said by offsets alone. Behind a prefix, its first occurrence is the one that
cutting the rest of the text finds: `Text.firstFrom_append_iff`.

## Main definitions

* `Text.OccursAt`, `Text.FirstFrom` — a pattern at an offset, and its first occurrence from there.
* `Text.slice` — the part of a text between two offsets.
-/
namespace TwoWaySql.Text

variable {t u v rest pattern before after : Text} {start offset offset' : Nat}

theorem byteSize_eq_zero_iff : t.byteSize = 0 ↔ t = [] := by
  cases t with
  | nil => simp
  | cons c rest =>
      have hpos := Char.utf8Size_pos c
      simp only [byteSize_cons, reduceCtorEq, iff_false]
      omega

/-! ## Occurrences -/

/-- Whether a pattern stands in a text at an offset. -/
def OccursAt (pattern t : Text) (offset : Nat) : Prop :=
  ∃ before after, t = before ++ pattern ++ after ∧ before.byteSize = offset

/-- Whether a pattern stands at an offset, and nowhere between it and where a search starts. -/
structure FirstFrom (pattern t : Text) (start offset : Nat) : Prop where
  /-- The pattern stands at the offset. -/
  occurs : OccursAt pattern t offset
  /-- The search does not start behind the offset. -/
  start_le : start ≤ offset
  /-- No occurrence stands before the offset, if it does not stand before the start. -/
  le : ∀ o, OccursAt pattern t o → start ≤ o → offset ≤ o

theorem FirstFrom.unique (h : FirstFrom pattern t start offset)
    (h' : FirstFrom pattern t start offset') : offset = offset' :=
  Nat.le_antisymm (h.le offset' h'.occurs h'.start_le) (h'.le offset h.occurs h.start_le)

/-- Of two prefixes of one text, the one with fewer bytes is a prefix of the other. -/
theorem exists_append_of_byteSize_le (h : u ++ v = before ++ after)
    (hsize : u.byteSize ≤ before.byteSize) : ∃ x, before = u ++ x ∧ v = x ++ after := by
  rcases List.append_eq_append_iff.1 h with ⟨x, hbefore, hv⟩ | ⟨x, rfl, rfl⟩
  · exact ⟨x, hbefore, hv⟩
  · rw [byteSize_append] at hsize
    have hx : x = [] := byteSize_eq_zero_iff.1 (by omega)
    exact ⟨[], by simp [hx]⟩

/-- The occurrences behind a prefix are those in the rest of the text. -/
theorem occursAt_append_iff (hsize : u.byteSize ≤ offset) :
    OccursAt pattern (u ++ rest) offset ↔
      ∃ lead after, rest = lead ++ pattern ++ after ∧ offset = u.byteSize + lead.byteSize := by
  constructor
  · rintro ⟨before, after, h, rfl⟩
    rw [List.append_assoc] at h
    obtain ⟨lead, rfl, rfl⟩ := exists_append_of_byteSize_le h hsize
    exact ⟨lead, after, by simp, by simp⟩
  · rintro ⟨lead, after, rfl, rfl⟩
    exact ⟨u ++ lead, after, by simp, by simp⟩

/-- Behind a prefix, the first occurrence is where the rest of the text is cut. -/
theorem firstFrom_append_iff : FirstFrom pattern (u ++ rest) u.byteSize offset ↔
    ∃ lead after, rest.cut pattern = some (lead, after) ∧
      offset = u.byteSize + lead.byteSize := by
  constructor
  · rintro ⟨hoccurs, hstart, hle⟩
    obtain ⟨lead, after, hrest, hoffset⟩ := (occursAt_append_iff hstart).1 hoccurs
    refine ⟨lead, after, cut_eq_some_iff.2 ⟨hrest, fun before' after' h' => ?_⟩, hoffset⟩
    have hother := hle (u.byteSize + before'.byteSize)
      ((occursAt_append_iff (Nat.le_add_right _ _)).2 ⟨before', after', h', rfl⟩)
      (Nat.le_add_right _ _)
    rw [hrest, List.append_assoc, List.append_assoc] at h'
    obtain ⟨x, rfl, -⟩ := exists_append_of_byteSize_le h' (by omega)
    simp
  · rintro ⟨lead, after, hcut, rfl⟩
    refine ⟨(occursAt_append_iff (Nat.le_add_right _ _)).2 ⟨lead, after, eq_of_cut hcut, rfl⟩,
      Nat.le_add_right _ _, fun o ho hstart => ?_⟩
    obtain ⟨lead', after', hrest, rfl⟩ := (occursAt_append_iff hstart).1 ho
    have hlength := length_le_of_cut hcut hrest
    have h := (eq_of_cut hcut).symm.trans hrest
    rw [List.append_assoc, List.append_assoc] at h
    obtain ⟨x, rfl⟩ : lead <+: lead' :=
      List.prefix_of_prefix_length_le ⟨_, h⟩ ⟨_, rfl⟩ hlength
    simp only [byteSize_append]
    omega

/-- Behind a prefix there is no occurrence exactly if the rest of the text is not cut. -/
theorem forall_occursAt_append_lt_iff :
    (∀ o, OccursAt pattern (u ++ rest) o → o < u.byteSize) ↔ rest.cut pattern = none := by
  rw [cut_eq_none_iff]
  constructor
  · intro h before after hrest
    have hlt := h (u.byteSize + before.byteSize)
      ((occursAt_append_iff (Nat.le_add_right _ _)).2 ⟨before, after, hrest, rfl⟩)
    omega
  · intro h o ho
    rcases Nat.lt_or_ge o u.byteSize with hlt | hle
    · exact hlt
    · obtain ⟨lead, after, hrest, -⟩ := (occursAt_append_iff hle).1 ho
      exact absurd hrest (h lead after)

/-! ## Slices -/

/-- The part of a text between two offsets. -/
def slice (t : Text) (start stop : Nat) : Text :=
  (t.takeBytes stop).drop (t.takeBytes start).length

/-- The slice from behind a prefix is what stands there, as far as it goes. -/
theorem slice_eq (before after : Text) {part : Text} {stop : Nat}
    (h : t = before ++ (part ++ after)) (hstart : start = before.byteSize)
    (hstop : stop = start + part.byteSize) : t.slice start stop = part := by
  have htake := takeBytes_byteSize_append (before ++ part) after
  rw [byteSize_append, List.append_assoc] at htake
  rw [slice, hstop, hstart, h, takeBytes_byteSize_append, htake, List.drop_left]

end TwoWaySql.Text

import Mathlib.Data.List.Nodup
import TwoWaySql.Text.Basic

/-!
# Pieces of a text

Cutting a text, or any row, at every occurrence of one element and putting the pieces together
again with that element between them undo each other. So pieces without the element are known from
what they are joined to, and lines from the text they make up.
-/
namespace TwoWaySql.Text

variable {α : Type} {separator : α} {piece : List α} {pieces pieces' : List (List α)}

theorem flatten_extend (c : α) (pieces : List (List α)) :
    (extend c pieces).flatten = c :: pieces.flatten := by
  cases pieces <;> rfl

theorem splitOn_eq [DecidableEq α] (separator : α) (t : List α) :
    splitOn separator t = List.splitOn separator t := by
  induction t with
  | nil => simp [splitOn]
  | cons c t ih =>
      rw [List.splitOn_cons_eq_if_modifyHead, ← ih, splitOn]
      by_cases hc : c = separator
      · simp [hc]
      · cases hrest : splitOn separator t with
        | nil => exact absurd (ih.symm.trans hrest) (List.splitOn_ne_nil separator t)
        | cons piece pieces => simp [hc, extend]

theorem join_cons_cons (separator t u : List α) (rest : List (List α)) :
    join separator (t :: u :: rest) = t ++ separator ++ join separator (u :: rest) := rfl

theorem join_eq (separator : List α) (pieces : List (List α)) :
    join separator pieces = separator.intercalate pieces := by
  induction pieces with
  | nil => simp [join]
  | cons piece pieces ih =>
      cases pieces with
      | nil => simp [join]
      | cons next pieces =>
          rw [join_cons_cons, ih, List.intercalate_cons_cons]

theorem mem_of_mem_join {c : α} (h : c ∈ join [separator] pieces) :
    c = separator ∨ ∃ piece ∈ pieces, c ∈ piece := by
  induction pieces with
  | nil => cases h
  | cons piece pieces ih =>
      cases pieces with
      | nil => exact .inr ⟨piece, List.mem_singleton_self piece, h⟩
      | cons next pieces =>
          rw [join_cons_cons, List.mem_append, List.mem_append, List.mem_singleton] at h
          rcases h with (hpiece | hseparator) | hrest
          · exact .inr ⟨piece, List.mem_cons_self, hpiece⟩
          · exact .inl hseparator
          · refine (ih hrest).imp_right ?_
            rintro ⟨found, hfound, hc⟩
            exact ⟨found, List.mem_cons_of_mem piece hfound, hc⟩

theorem join_concat (separator piece : List α) (hne : pieces ≠ []) :
    join separator (pieces ++ [piece]) = join separator pieces ++ separator ++ piece := by
  induction pieces with
  | nil => exact absurd rfl hne
  | cons first pieces ih =>
      cases pieces with
      | nil => rfl
      | cons next pieces =>
          have hrest := ih (List.cons_ne_nil next pieces)
          rw [List.cons_append, List.cons_append, join_cons_cons, join_cons_cons,
            ← List.cons_append, hrest]
          simp only [List.append_assoc]

/-- Without the separator, joined pieces are the pieces in a row. -/
theorem filter_join [DecidableEq α] (h : ∀ piece ∈ pieces, separator ∉ piece) :
    (join [separator] pieces).filter (· ≠ separator) = pieces.flatten := by
  induction pieces with
  | nil => rfl
  | cons piece pieces ih =>
      obtain ⟨hpiece, hpieces⟩ := List.forall_mem_cons.1 h
      have hkeep : piece.filter (· ≠ separator) = piece :=
        List.filter_eq_self.2 fun c hc => by simpa using ne_of_mem_of_not_mem hc hpiece
      cases pieces with
      | nil => simpa [join] using hkeep
      | cons next pieces =>
          rw [join_cons_cons, List.filter_append, List.filter_append, hkeep, ih hpieces]
          simp

/-- The pieces of a text, joined, are the text. -/
theorem join_splitOn [DecidableEq α] (separator : α) (t : List α) :
    join [separator] (splitOn separator t) = t := by
  rw [join_eq, splitOn_eq, List.intercalate_splitOn]

/-- The pieces of joined texts are the texts. -/
theorem splitOn_join [DecidableEq α] (hne : pieces ≠ []) (h : ∀ piece ∈ pieces, separator ∉ piece) :
    splitOn separator (join [separator] pieces) = pieces := by
  rw [join_eq, splitOn_eq, List.splitOn_intercalate separator h hne]

theorem splitOn_ne_nil [DecidableEq α] (separator : α) (t : List α) :
    splitOn separator t ≠ [] := by
  rw [splitOn_eq]
  exact List.splitOn_ne_nil separator t

theorem not_mem_of_mem_splitOn [DecidableEq α] {t : List α}
    (h : piece ∈ splitOn separator t) : separator ∉ piece := by
  induction t generalizing piece with
  | nil =>
      rw [splitOn, List.mem_singleton] at h
      simp [h]
  | cons c t ih =>
      rw [splitOn] at h
      by_cases hc : c = separator
      · rw [if_pos hc, List.mem_cons] at h
        rcases h with rfl | h
        · simp
        · exact ih h
      · rw [if_neg hc] at h
        cases hrest : splitOn separator t with
        | nil => exact absurd hrest (splitOn_ne_nil separator t)
        | cons first pieces =>
            rw [hrest, extend, List.mem_cons] at h
            rcases h with rfl | h
            · simpa [Ne.symm hc] using ih (hrest ▸ List.mem_cons_self)
            · exact ih (hrest ▸ List.mem_cons_of_mem first h)

/-- Joined pieces without the separator that are not empty are known from the text. -/
theorem join_inj [DecidableEq α] (h : ∀ piece ∈ pieces, piece ≠ [] ∧ separator ∉ piece)
    (h' : ∀ piece ∈ pieces', piece ≠ [] ∧ separator ∉ piece)
    (heq : join [separator] pieces = join [separator] pieces') : pieces = pieces' := by
  have hnil : ∀ {pieces : List (List α)}, (∀ piece ∈ pieces, piece ≠ [] ∧ separator ∉ piece) →
      pieces = (splitOn separator (join [separator] pieces)).filter (· ≠ []) := by
    intro pieces h
    cases pieces with
    | nil => simp [join, splitOn]
    | cons piece pieces =>
        rw [splitOn_join (List.cons_ne_nil piece pieces) fun p hp => (h p hp).2]
        exact (List.filter_eq_self.2 fun p hp => by simpa using (h p hp).1).symm
  rw [hnil h, hnil h', heq]

/-- Two rows of one kind in front of things of another kind are known from the whole. -/
theorem eq_of_append_cons {P : α → Prop} {xs ys u v : List α} {c d : α}
    (hxs : ∀ x ∈ xs, P x) (hys : ∀ y ∈ ys, P y) (hc : ¬ P c) (hd : ¬ P d)
    (h : xs ++ c :: u = ys ++ d :: v) : xs = ys ∧ c = d ∧ u = v := by
  induction xs generalizing ys with
  | nil =>
      cases ys with
      | nil => exact ⟨rfl, List.cons.inj h⟩
      | cons y ys => exact absurd ((List.cons.inj h).1 ▸ hys y List.mem_cons_self) hc
  | cons x xs ih =>
      cases ys with
      | nil => exact absurd ((List.cons.inj h).1 ▸ hxs x List.mem_cons_self) hd
      | cons y ys =>
          obtain ⟨rfl, hrest⟩ := List.cons.inj h
          obtain ⟨rfl, hstop⟩ := ih (fun x hx => hxs x (List.mem_cons_of_mem _ hx))
            (fun y hy => hys y (List.mem_cons_of_mem _ hy)) hrest
          exact ⟨rfl, hstop⟩

/-- Texts without line breaks are known from the text that has each on a line of its own. -/
theorem lines_inj {ls ls' : List Text} (hls : ∀ l ∈ ls, '\n' ∉ l) (hls' : ∀ l ∈ ls', '\n' ∉ l)
    (h : lines ls = lines ls') : ls = ls' := by
  have hne : ∀ {l : Text}, '\n' ∉ l → ∀ c ∈ l, c ≠ '\n' := by
    intro l hl c hc heq
    exact hl (heq ▸ hc)
  induction ls generalizing ls' with
  | nil => cases ls' <;> simp_all [lines]
  | cons l ls ih =>
      cases ls' with
      | nil => simp [lines] at h
      | cons l' ls' =>
          simp only [lines, List.flatMap_cons, List.append_assoc, List.singleton_append] at h
          obtain ⟨rfl, -, hrest⟩ := eq_of_append_cons (hne (hls l List.mem_cons_self))
            (hne (hls' l' List.mem_cons_self)) (by simp) (by simp) h
          rw [ih (fun l hl => hls l (List.mem_cons_of_mem _ hl))
            (fun l hl => hls' l (List.mem_cons_of_mem _ hl)) hrest]

end TwoWaySql.Text

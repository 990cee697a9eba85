import Mathlib.Data.List.Forall2
import Mathlib.Data.List.Nodup

/-!
# Lists with keys

Where the elements of a list have keys of their own, a key stands for one element at most, and a
search for the key finds that element wherever it is in the list.
-/
namespace TwoWaySql.Key

variable {α κ : Type} {key : α → κ} {l : List α} {x : α} {k : κ}

/-- One more thing keeps the keys different exactly if its key is new. -/
theorem nodup_map_append_singleton_iff :
    ((l ++ [x]).map key).Nodup ↔ (l.map key).Nodup ∧ key x ∉ l.map key := by
  rw [List.map_append, List.map_singleton, List.nodup_append]
  simp

/-- Every element of a list has its partner in a list that goes with it. -/
theorem exists_mem_of_forall₂ {β : Type} {R : α → β → Prop} {m : List β}
    (h : List.Forall₂ R l m) (hx : x ∈ l) : ∃ y ∈ m, R x y := by
  induction h with
  | nil => cases hx
  | @cons x' y' l m hhead _ ih =>
      rcases List.mem_cons.1 hx with rfl | hx
      · exact ⟨y', List.mem_cons_self, hhead⟩
      · obtain ⟨y, hy, hxy⟩ := ih hx
        exact ⟨y, List.mem_cons_of_mem y' hy, hxy⟩

/-- If partners are unique, the list that goes with another one has just their partners. -/
theorem mem_iff_of_forall₂ {β : Type} {R : α → β → Prop} (hR : Relator.RightUnique R) {m : List β}
    {y : β} (h : List.Forall₂ R l m) : y ∈ m ↔ ∃ x ∈ l, R x y := by
  induction h with
  | nil => simp
  | @cons x y' l m hhead _ ih =>
      have hpartner : y = y' ↔ R x y := by
        constructor
        · rintro rfl
          exact hhead
        · exact fun hxy => hR hxy hhead
      simp [ih, hpartner]

variable [DecidableEq κ]

theorem find?_eq_some_iff (h : (l.map key).Nodup) :
    l.find? (key · = k) = some x ↔ x ∈ l ∧ key x = k := by
  constructor
  · intro hfind
    exact ⟨List.mem_of_find?_eq_some hfind, by simpa using List.find?_some hfind⟩
  · rintro ⟨hx, rfl⟩
    cases hfind : l.find? (key · = key x) with
    | none =>
        have hne := List.find?_eq_none.1 hfind x hx
        simp at hne
    | some y =>
        have hy : key y = key x := by simpa using List.find?_some hfind
        rw [List.inj_on_of_nodup_map h (List.mem_of_find?_eq_some hfind) hx hy]

theorem find?_eq_none_iff : l.find? (key · = k) = none ↔ k ∉ l.map key := by
  simp

end TwoWaySql.Key

import TwoWaySql.Directive.Token
import TwoWaySql.Proofs.Text.Blank
import TwoWaySql.Proofs.Text.Pieces

/-!
# The tokens of a body

Cutting a body into tokens drops blanks and nothing else, so a body without tokens is blank.
-/
namespace TwoWaySql

namespace Token

variable {c : Char} {body : Text}

/-- A character that is not blank stands in a run wherever the text starts. -/
theorem mem_flatten_runs_iff (h : isBlank c = false) (quoted escaped : Bool) (t : Text) :
    c ∈ (runs quoted escaped t).flatten ↔ c ∈ t := by
  induction t generalizing quoted escaped with
  | nil => simp [runs]
  | cons d t ih =>
      simp only [runs]
      split
      · rw [Text.flatten_extend, List.mem_cons, List.mem_cons, ih]
      · split
        · next hd =>
          have hne : c ≠ d := by
            rintro rfl
            rw [hd.1] at h
            cases h
          rw [List.flatten_cons, List.nil_append, ih, List.mem_cons]
          simp [hne]
        · rw [Text.flatten_extend, List.mem_cons, List.mem_cons, ih]

/-- Outside quotes a space ends a run. -/
theorem runs_blank (escaped : Bool) (rest : Text) :
    runs false escaped (' ' :: rest) = [] :: runs false false rest := by
  have hspace : isBlank ' ' = true := by decide
  simp [runs, hspace]

/-- A body has no tokens exactly if it is blank. -/
theorem all_eq_nil_iff : all body = [] ↔ ∀ c ∈ body, isBlank c = true := by
  have hruns : all body = [] ↔ ∀ c ∈ (runs false false body).flatten, isBlank c = true := by
    simp only [all, List.filter_eq_nil_iff, List.forall_mem_map, Bool.not_eq_true',
      List.isEmpty_iff, Bool.not_eq_false, Text.trim_eq_nil_iff, List.mem_flatten, forall_exists_index, and_imp]
    exact ⟨fun h c run hrun hc => h run hrun c hc, fun h run hrun c hc => h c run hrun hc⟩
  rw [hruns]
  refine forall_congr' fun c => ?_
  cases hc : isBlank c with
  | true => simp
  | false => rw [mem_flatten_runs_iff hc]

end Token

end TwoWaySql

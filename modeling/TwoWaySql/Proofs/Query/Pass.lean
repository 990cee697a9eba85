import TwoWaySql.Proofs.Query.Fault
import TwoWaySql.Proofs.Query.Placeholder
import TwoWaySql.Proofs.Query.Spelling

/-!
# One pass over a template

A template is compiled by building a tree and expanding it. The same query comes out of a single
pass from left to right over its gaps and directives, with the conditions of the open blocks on a
stack. The pass has no tree, so it says plainly what a block does: what stands in it is written if
all conditions around it are true, and is not even looked at otherwise.

## Main definitions

* `Pass`, `Pass.step`, `Pass.run` — the state of the pass and its steps.
* `Step.fault?` — what is wrong with the arguments of a step.
-/
namespace TwoWaySql

open Outcome (FailsWith)

/-! ## The pass -/

/-- The state of a pass over a template. -/
structure Pass where
  /-- What is written so far. -/
  query : Query
  /-- The conditions of the open blocks, innermost first; none for one that was not resolved. -/
  conditions : List (Option Bool)

namespace Pass

/-- Nothing is written and no block is open. -/
def start : Pass := ⟨.blank, []⟩

/-- Whether all open blocks have true conditions. -/
def live (pass : Pass) : Bool := pass.conditions.all (· == some true)

/-- One step of a pass. Where the pass is not live, nothing is written or resolved. -/
def step (style : PlaceholderStyle) (data : Data) (pass : Pass) : Step → Except CompileError Pass
  | .text t =>
    .ok (if pass.live then { pass with query := pass.query.push style (.text t) } else pass)
  | .action a p => do
    if pass.live then
      let pieces ← a.expand data p
      return { pass with query := pieces.foldl (Query.push style) pass.query }
    else return pass
  | .opens condition p => do
    if pass.live then
      let holds ← condition.resolveCondition data p
      return { pass with conditions := some holds :: pass.conditions }
    else return { pass with conditions := none :: pass.conditions }
  | .closes _ => .ok { pass with conditions := pass.conditions.tail }

/-- A pass over steps. -/
def run (style : PlaceholderStyle) (data : Data) (pass : Pass) (steps : List Step) :
    Except CompileError Pass :=
  steps.foldlM (step style data) pass

/-- The pass after pieces are written. -/
def emit (style : PlaceholderStyle) (pass : Pass) (pieces : List Piece) : Pass :=
  { pass with query := pieces.foldl (Query.push style) pass.query }

variable {style : PlaceholderStyle} {data : Data}

@[simp] theorem emit_nil (pass : Pass) : pass.emit style [] = pass := rfl

theorem emit_append (pass : Pass) (ps qs : List Piece) :
    pass.emit style (ps ++ qs) = (pass.emit style ps).emit style qs := by
  simp [emit]

@[simp] theorem run_cons (pass : Pass) (s : Step) (steps : List Step) :
    run style data pass (s :: steps) =
      pass.step style data s >>= fun next => run style data next steps := rfl

@[simp] theorem run_append (pass : Pass) (ss ts : List Step) :
    run style data pass (ss ++ ts) =
      run style data pass ss >>= fun next => run style data next ts := by
  simp [run]

end Pass

/-- What is wrong with the arguments of a step. -/
def Step.fault? (data : Data) : Step → Option CompileError
  | .text _ => none
  | .action a p => a.keyword.fault? data p a.args
  | .opens condition p => Keyword.ifBlock.fault? data p [condition]
  | .closes _ => none

namespace Pass

variable (style : PlaceholderStyle) (data : Data)

/-- Where the pass is live a step fails by the arguments of its directive. -/
theorem step_failsWith {pass : Pass} (h : pass.live = true) (s : Step) :
    FailsWith (pass.step style data s) (s.fault? data) := by
  cases s with
  | text t => simp [step, Step.fault?, FailsWith]
  | action a p =>
      simp only [step, h, if_true]
      exact (a.expand_failsWith data p).bind_ok _
  | opens condition p =>
      rw [Step.fault?, Keyword.fault?_singleton data p (by rfl)]
      simp only [step, h, if_true]
      exact (condition.resolveCondition_failsWith data p).bind_ok _
  | closes p => simp [step, Step.fault?, FailsWith]

/-- Where the pass is not live a step neither fails nor writes. -/
theorem exists_step_of_not_live {pass : Pass} (h : pass.live = false) (s : Step) :
    ∃ conditions, pass.step style data s = .ok ⟨pass.query, conditions⟩ := by
  cases s with
  | text t => exact ⟨pass.conditions, by simp [step, h]⟩
  | action a p => exact ⟨pass.conditions, by simp [step, h]⟩
  | opens condition p => exact ⟨none :: pass.conditions, by simp [step, h]⟩
  | closes p => exact ⟨pass.conditions.tail, rfl⟩

/-- A row that spells a tree leaves a pass that is not live as it was. -/
theorem run_of_not_live {steps : List Step} {nodes : List Node} (h : Spells steps nodes)
    {pass : Pass} (hp : pass.live = false) : run style data pass steps = .ok pass := by
  induction h generalizing pass with
  | nil => rfl
  | blank _ ih => simp [step, hp, ih hp]
  | text t _ ih => simp [step, hp, ih hp]
  | action a p _ ih => simp [step, hp, ih hp]
  | block condition p q _ _ ihb ih =>
      have hinner : live ⟨pass.query, none :: pass.conditions⟩ = false := rfl
      simp [step, hp, ihb hinner, ih hp]

/-- What is written of a row of nodes is what is written of the first and then of the others. -/
theorem map_emit_expandAll_cons (pass : Pass) (node : Node) (nodes : List Node) :
    (Node.expandAll data (node :: nodes)).map (pass.emit style) =
      node.expand data >>= fun pieces =>
        (Node.expandAll data nodes).map ((pass.emit style pieces).emit style) := by
  rw [Node.expandAll]
  cases node.expand data with
  | error e => rfl
  | ok pieces =>
      cases Node.expandAll data nodes with
      | error e => rfl
      | ok rest => simp [emit_append]

/-- A row that spells a tree writes the pieces of the tree in a pass that is live, and fails as
the tree does. -/
theorem run_of_live {steps : List Step} {nodes : List Node} (h : Spells steps nodes)
    {pass : Pass} (hp : pass.live = true) :
    run style data pass steps = (Node.expandAll data nodes).map (pass.emit style) := by
  induction h generalizing pass with
  | nil => rfl
  | blank _ ih =>
      have hblank : pass.step style data (.text []) = .ok pass := by simp [step, hp, Query.push]
      rw [run_cons, hblank, Outcome.ok_bind, ih hp]
  | text t _ ih =>
      rw [map_emit_expandAll_cons, run_cons]
      simp only [step, hp, if_true, Node.expand, Outcome.ok_bind]
      exact ih hp
  | action a p _ ih =>
      rw [map_emit_expandAll_cons, run_cons]
      simp only [step, hp, if_true, Node.expand]
      cases a.expand data p with
      | error e => rfl
      | ok pieces => exact ih hp
  | @block inside body steps nodes condition p q hb _ ihb ih =>
      rw [map_emit_expandAll_cons, run_cons]
      simp only [step, hp, if_true, Node.expand]
      cases condition.resolveCondition data p with
      | error e => rfl
      | ok holds =>
          cases holds with
          | false =>
              have hinner : live ⟨pass.query, some false :: pass.conditions⟩ = false := rfl
              simp [run_of_not_live style data hb hinner, step, ih hp]
          | true =>
              have hinner : live ⟨pass.query, some true :: pass.conditions⟩ = true := by
                simpa [live] using hp
              simp only [Outcome.ok_bind, Outcome.pure_eq_ok, run_append, ihb hinner, if_true]
              cases Node.expandAll data body with
              | error e => rfl
              | ok pieces => exact ih hp

end Pass

namespace Query

/-- Compiling a template that has a tree is a pass over its row of steps. -/
theorem compile_eq_map_run {cleaned : Text} {nodes : List Node}
    (h : Node.ofText? cleaned = .ok nodes) (style : PlaceholderStyle) (data : Data) :
    compile style cleaned data =
      (Pass.run style data .start (Layout.ofText cleaned).steps).map Pass.query := by
  have hstart : Pass.start.live = true := rfl
  have hrun := Pass.run_of_live style data (Node.spells_of_ofText? h) hstart
  rw [hrun, compile_eq_map, pieces?, h, Outcome.ok_bind]
  cases Node.expandAll data nodes with
  | error e => rfl
  | ok pieces => simp [ofPieces_eq_foldl, Pass.emit, Pass.start]

/-- A template that has a tree fails with the fault of the first step that has one where the pass
is live. -/
theorem compile_eq_error_iff {cleaned : Text} {nodes : List Node}
    (h : Node.ofText? cleaned = .ok nodes) (style : PlaceholderStyle) (data : Data)
    (e : CompileError) : compile style cleaned data = .error e ↔
      ∃ before step after pass, (Layout.ofText cleaned).steps = before ++ step :: after ∧
        Pass.run style data .start before = .ok pass ∧ pass.live = true ∧
        step.fault? data = some e := by
  rw [compile_eq_map_run h, Outcome.map_eq_error, Pass.run, Outcome.foldlM_eq_error]
  constructor
  · rintro ⟨before, step, after, pass, hsteps, hbefore, hstep⟩
    cases hlive : pass.live with
    | false =>
        obtain ⟨conditions, hok⟩ := Pass.exists_step_of_not_live style data hlive step
        rw [hok] at hstep
        cases hstep
    | true =>
        have hfault := (Pass.step_failsWith style data hlive step e).1 hstep
        exact ⟨before, step, after, pass, hsteps, hbefore, hlive, hfault⟩
  · rintro ⟨before, step, after, pass, hsteps, hbefore, hlive, hfault⟩
    have hstep := (Pass.step_failsWith style data hlive step e).2 hfault
    exact ⟨before, step, after, pass, hsteps, hbefore, hstep⟩

end Query

end TwoWaySql

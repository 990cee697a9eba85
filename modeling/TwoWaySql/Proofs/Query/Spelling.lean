import Mathlib.Data.List.Defs
import TwoWaySql.Proofs.Outcome
import TwoWaySql.Query.Node

/-!
# Templates as rows of steps

A template is a row of gaps and directives. Building the tree takes them in from left to right,
with the open blocks on a stack, and the tree that comes out spells the row: its texts and
directives are those of the row in order, and each block is a condition, its inside and an end.

## Main definitions

* `Layout.trimmedGaps`, `Layout.steps` — the gaps and directives of a template in a row.
* `Spells` — the rows of steps that are the parts of a tree in order.
* `Growth.Holds` — what a tree in the making has taken in.
-/
namespace TwoWaySql

/-- The step of the directive in a comment; none for a directive that the catalog does not have. -/
def Span.step? (position : Position) (s : Span) : Option Step :=
  match Directive.ofSpan? position s with
  | none => none
  | some d =>
    match d.step? with
    | .ok step => step
    | .error _ => none

theorem Span.step?_eq_some_iff {position : Position} {s : Span} {step : Step} :
    s.step? position = some step ↔
      ∃ d, Directive.ofSpan? position s = some d ∧ d.step? = .ok (some step) := by
  rw [step?]
  cases Directive.ofSpan? position s with
  | none => simp
  | some d => cases h : d.step? <;> simp [h]

namespace Layout

/-- The gaps of a template in order. A gap loses the blanks at its start if the comment before it
trims to the right, and those at its end if the comment behind it trims to the left. -/
def trimmedGaps (l : Layout) : List Text :=
  List.zipWith3 Element.trimmed (false :: l.spans.map Span.trimsRight)
    (l.spans.map Span.trimsLeft ++ [false]) (l.lead :: l.spans.map Span.gap)

/-- The gaps of a template as steps, behind each comment the gap that follows it. -/
def steps (l : Layout) : List Step :=
  ((none :: l.located.map fun (p, s) => s.step? p).zip l.trimmedGaps).flatMap
    fun (directive?, gap) => directive?.toList ++ [.text gap]

end Layout

namespace Element

/-- An element as a step of the row. -/
def flat : Element → List Step
  | text t => [.text t]
  | comment p s => (s.step? p).toList

/-- The row behind a comment, from the directive of the comment on. -/
theorem flatMap_flat_ofSpans (directive? : Option Step) (p : Position) (trims : Bool) (gap : Text)
    (spans : List Span) :
    ((directive? :: (Layout.locate (p.advance gap) spans).map fun (q, s) => s.step? q).zip
      (List.zipWith3 trimmed (trims :: spans.map Span.trimsRight)
        (spans.map Span.trimsLeft ++ [false]) (gap :: spans.map Span.gap))).flatMap
        (fun (directive?, gap) => directive?.toList ++ [Step.text gap]) =
      directive?.toList ++ (ofSpans p trims gap spans).flatMap flat := by
  induction spans generalizing directive? p trims gap with
  | nil => simp [Layout.locate, List.zipWith3, ofSpans, flat]
  | cons s rest ih =>
      have hnext := ih (s.step? (p.advance gap)) ((p.advance gap).advance s.comment)
        s.trimsRight s.gap
      rw [← Position.advance_append, ← Span.text] at hnext
      simp only [Layout.locate, List.map_cons, List.cons_append, List.zipWith3,
        List.zip_cons_cons, List.flatMap_cons] at hnext ⊢
      simp [hnext, ofSpans, flat]

end Element

/-- The elements of a template make up its row of steps. -/
theorem Layout.steps_eq_flatMap (l : Layout) :
    l.steps = (Element.ofLayout l).flatMap Element.flat := by
  have h := Element.flatMap_flat_ofSpans none Position.start false l.lead l.spans
  simpa [steps, trimmedGaps, located, Element.ofLayout, Position.after] using h

/-! ## Rows that spell trees -/

/-- A row of steps spells a row of nodes: it has their texts and directives in order, and an
opening and a closing step around the inside of each block. Empty texts have no nodes. -/
inductive Spells : List Step → List Node → Prop
  | nil : Spells [] []
  | blank {steps nodes} (h : Spells steps nodes) : Spells (.text [] :: steps) nodes
  | text {steps nodes} (t : Text) (h : Spells steps nodes) :
      Spells (.text t :: steps) (.text t :: nodes)
  | action {steps nodes} (a : Action) (p : Position) (h : Spells steps nodes) :
      Spells (.action a p :: steps) (.action a p :: nodes)
  | block {inside body steps nodes} (condition : Arg) (p q : Position) (hb : Spells inside body)
      (h : Spells steps nodes) :
      Spells (.opens condition p :: (inside ++ .closes q :: steps))
        (.block condition p body :: nodes)

namespace Spells

theorem append {ss ts : List Step} {ms ns : List Node} (h : Spells ss ms) (h' : Spells ts ns) :
    Spells (ss ++ ts) (ms ++ ns) := by
  induction h with
  | nil => exact h'
  | blank _ ih => exact .blank ih
  | text t _ ih => exact .text t ih
  | action a p _ ih => exact .action a p ih
  | block condition p q hb _ _ ih =>
      rw [List.cons_append, List.append_assoc]
      exact .block condition p q hb ih

end Spells

namespace Growth

/-- A tree in the making holds the steps that it has taken in: the nodes before the open blocks
and inside the innermost one spell them, up to the opening steps of the blocks. -/
inductive Holds : List Step → Growth → Prop
  | top {steps nodes} (h : Spells steps nodes.reverse) : Holds steps ⟨nodes, []⟩
  | inner {steps inside nodes before blocks} (condition : Arg) (p : Position)
      (h : Holds steps ⟨before, blocks⟩) (hs : Spells inside nodes.reverse) :
      Holds (steps ++ .opens condition p :: inside) ⟨nodes, (condition, p, before) :: blocks⟩

/-- Steps that spell nodes of their own go to the innermost block. -/
theorem Holds.append {steps more : List Step} {nodes added : List Node}
    {blocks : List (Arg × Position × List Node)} (h : Holds steps ⟨nodes, blocks⟩)
    (hs : Spells more added) : Holds (steps ++ more) ⟨added.reverse ++ nodes, blocks⟩ := by
  cases h with
  | top h => exact .top (by simpa using h.append hs)
  | inner condition p h hi =>
      rw [List.append_assoc, List.cons_append]
      exact .inner condition p h (by simpa using hi.append hs)

/-- What one more step does to what is held. -/
theorem Holds.add {steps : List Step} {g g' : Growth} {s : Step} (h : Holds steps g)
    (hs : g.add s = .ok g') : Holds (steps ++ [s]) g' := by
  obtain ⟨nodes, blocks⟩ := g
  cases s with
  | text t =>
      cases hs
      exact h.append (.text t .nil)
  | action a p =>
      cases hs
      exact h.append (.action a p .nil)
  | opens condition p =>
      cases hs
      exact .inner condition p h .nil
  | closes q =>
      cases h with
      | top h => simp [Growth.add] at hs
      | inner condition p h hi =>
          cases hs
          have hblock := h.append (.block condition p q hi .nil)
          simpa using hblock

/-- What one more element does to what is held. -/
theorem Holds.addElement {steps : List Step} {g g' : Growth} {e : Element} (h : Holds steps g)
    (he : g.addElement e = .ok g') : Holds (steps ++ e.flat) g' := by
  obtain ⟨nodes, blocks⟩ := g
  cases e with
  | text t =>
      cases t with
      | nil =>
          cases he
          exact h.append (.blank .nil)
      | cons c t => exact h.add he
  | comment p s =>
      obtain ⟨step?, hstep, hadd⟩ := Outcome.bind_eq_ok.1 he
      have hflat : s.step? p = step? := by
        cases hd : Directive.ofSpan? p s with
        | none => simp [Element.step?, hd] at hstep
        | some d =>
            simp only [Element.step?, hd] at hstep
            simp [Span.step?, hd, hstep]
      cases step? with
      | none =>
          cases hadd
          simpa [Element.flat, hflat] using h
      | some step => simpa [Element.flat, hflat] using h.add hadd

theorem Holds.foldlM {steps : List Step} {g g' : Growth} {es : List Element} (h : Holds steps g)
    (hes : es.foldlM Growth.addElement g = .ok g') : Holds (steps ++ es.flatMap Element.flat) g' := by
  induction es generalizing steps g with
  | nil =>
      cases hes
      simpa using h
  | cons e rest ih =>
      rw [List.foldlM_cons] at hes
      obtain ⟨g₁, he, hrest⟩ := Outcome.bind_eq_ok.1 hes
      rw [List.flatMap_cons, ← List.append_assoc]
      exact ih (h.addElement he) hrest

theorem Holds.finish {steps : List Step} {g : Growth} {nodes : List Node} (h : Holds steps g)
    (hg : g.finish = .ok nodes) : Spells steps nodes := by
  cases h with
  | top hs =>
      cases hg
      exact hs
  | inner condition p _ _ => cases hg

end Growth

namespace Node

/-- A template has a tree if every comment is closed, every element can be taken in, and no block
is left open. -/
theorem ofText?_eq_ok_iff {source : Text} {nodes : List Node} : ofText? source = .ok nodes ↔
    (Layout.ofText source).unclosed? = none ∧ ∃ g,
      (Element.ofLayout (Layout.ofText source)).foldlM Growth.addElement .empty = .ok g ∧
        g.finish = .ok nodes := by
  simp only [ofText?]
  cases (Layout.ofText source).unclosed? with
  | some p => simp
  | none => simp [Outcome.bind_eq_ok]

/-- The tree of a template spells its row of steps. -/
theorem spells_of_ofText? {source : Text} {nodes : List Node} (h : ofText? source = .ok nodes) :
    Spells (Layout.ofText source).steps nodes := by
  obtain ⟨-, g, hg, hfinish⟩ := ofText?_eq_ok_iff.1 h
  have hempty : Growth.Holds [] .empty := .top .nil
  have hholds := hempty.foldlM hg
  rw [← Layout.steps_eq_flatMap, List.nil_append] at hholds
  exact hholds.finish hfinish

end Node

end TwoWaySql

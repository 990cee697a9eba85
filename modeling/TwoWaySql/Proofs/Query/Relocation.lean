import TwoWaySql.Proofs.Outcome
import TwoWaySql.Query.Basic

/-!
# Moving the comments of a template

The place of a comment is carried through compilation for one purpose: to be shown in an error. No
step looks at it. So a template whose comments are moved has the query it had, or fails with the
error it had, moved in the same way. An error then belongs to one comment, the one whose place it
shows wherever the comments are put.

## Main definitions

* `CompileError.move`, `Element.move`, `Node.move`, `Growth.move` — a change of all places.
* `Query.compileAt` — the query of a layout whose comments are put at given places.
* `Query.DueTo` — the comment that an error belongs to.
-/
namespace TwoWaySql

open Outcome (bimap bind_bimap)

variable (f : Position → Position)

/-! ## Changing places -/

namespace CompileError

/-- The error at another place. -/
def move : CompileError → CompileError
  | unresolvedField name p => unresolvedField name (f p)
  | typeMismatch keyword index expected found p => typeMismatch keyword index expected found (f p)
  | arity e => arity { e with position := f e.position }
  | endWithoutIf p => endWithoutIf (f p)
  | ifWithoutEnd p => ifWithoutEnd (f p)
  | neverClosed p => neverClosed (f p)
  | emptyDirective p => emptyDirective (f p)
  | notLiteral text p => notLiteral text (f p)

@[simp] theorem position_move (e : CompileError) : (e.move f).position = f e.position := by
  cases e <;> rfl

/-- An error has one place. -/
theorem move_congr {g h : Position → Position} {e : CompileError}
    (heq : g e.position = h e.position) : e.move g = e.move h := by
  cases e <;> simp_all [move, position]

theorem move_move (g : Position → Position) (e : CompileError) :
    (e.move f).move g = e.move (g ∘ f) := by
  cases e <;> rfl

end CompileError

/-- The directive at another place. -/
def Directive.move (d : Directive) : Directive := { d with position := f d.position }

/-- The step at another place. -/
def Step.move : Step → Step
  | text t => text t
  | action a p => action a (f p)
  | opens condition p => opens condition (f p)
  | closes p => closes (f p)

/-- The element at another place. -/
def Element.move : Element → Element
  | text t => text t
  | comment p s => comment (f p) s

namespace Node

mutual

/-- The node with all directives in it at other places. -/
def move : Node → Node
  | text t => text t
  | action a p => action a (f p)
  | block condition p body => block condition (f p) (moveAll body)

/-- The nodes with all directives in them at other places. -/
def moveAll : List Node → List Node
  | [] => []
  | node :: nodes => move node :: moveAll nodes

end

theorem moveAll_eq_map (nodes : List Node) : moveAll f nodes = nodes.map (move f) := by
  induction nodes with
  | nil => rfl
  | cons node nodes ih => rw [moveAll, ih, List.map_cons]

end Node

/-- The tree in the making with all directives in it at other places. -/
def Growth.move (g : Growth) : Growth where
  nodes := Node.moveAll f g.nodes
  blocks := g.blocks.map fun (condition, p, before) => (condition, f p, Node.moveAll f before)

/-! ## Growing the tree -/

theorem Directive.ofSpan?_move (p : Position) (s : Span) :
    ofSpan? (f p) s = (ofSpan? p s).map (move f) := by
  rw [ofSpan?, ofSpan?]
  cases Token.all s.body <;> rfl

theorem Directive.step?_move (d : Directive) :
    (d.move f).step? = bimap (CompileError.move f) (Option.map (Step.move f)) d.step? := by
  obtain ⟨name, args, p, trimsLeft, trimsRight⟩ := d
  simp only [step?, keyword?, move]
  cases Keyword.ofWord? name with
  | none => rfl
  | some k =>
      -- the catalog knows no directive with more than three arguments
      rcases args with _ | ⟨a, _ | ⟨b, _ | ⟨c, _ | ⟨d, rest⟩⟩⟩⟩ <;> cases k <;> rfl

theorem Element.step?_move (e : Element) :
    (e.move f).step? = bimap (CompileError.move f) (Option.map (Step.move f)) e.step? := by
  cases e with
  | text t =>
      simp only [move, step?]
      cases t <;> rfl
  | comment p s =>
      simp only [move, step?, Directive.ofSpan?_move]
      cases Directive.ofSpan? p s with
      | none => rfl
      | some d => exact d.step?_move f

namespace Growth

theorem add_move (g : Growth) (s : Step) :
    (g.move f).add (s.move f) = bimap (CompileError.move f) (move f) (g.add s) := by
  obtain ⟨nodes, blocks⟩ := g
  cases s with
  | closes p =>
      cases blocks with
      | nil => rfl
      | cons block blocks =>
          simp [add, move, Step.move, Node.moveAll, Node.move, Node.moveAll_eq_map]
  | _ => rfl

theorem addElement_move (g : Growth) (e : Element) :
    (g.move f).addElement (e.move f) = bimap (CompileError.move f) (move f) (g.addElement e) := by
  rw [addElement, addElement, Element.step?_move]
  refine bind_bimap fun step? => ?_
  cases step? with
  | none => rfl
  | some s => exact g.add_move f s

theorem finish_move (g : Growth) :
    (g.move f).finish = bimap (CompileError.move f) (Node.moveAll f) g.finish := by
  obtain ⟨nodes, blocks⟩ := g
  cases blocks with
  | nil => simp [finish, move, Node.moveAll_eq_map]
  | cons block blocks => rfl

end Growth

/-! ## Expanding the tree -/

namespace Arg

variable (data : Data) (keyword : Keyword) (index : Nat) (p : Position) (arg : Arg)

theorem resolve_move : arg.resolve data (f p) =
    bimap (CompileError.move f) id (arg.resolve data p) := by
  cases arg with
  | field name =>
      simp only [resolve]
      cases data name <;> rfl
  | quoted text => rfl
  | bare text =>
      simp only [resolve]
      cases Value.ofLiteral? text <;> rfl

theorem resolveString_move : arg.resolveString data keyword index (f p) =
    bimap (CompileError.move f) id (arg.resolveString data keyword index p) := by
  rw [resolveString, resolveString, resolve_move]
  refine bind_bimap fun value => ?_
  cases value <;> rfl

theorem resolveList_move : arg.resolveList data keyword index (f p) =
    bimap (CompileError.move f) id (arg.resolveList data keyword index p) := by
  rw [resolveList, resolveList, resolve_move]
  refine bind_bimap fun value => ?_
  cases value <;> rfl

theorem resolveCondition_move : arg.resolveCondition data (f p) =
    bimap (CompileError.move f) id (arg.resolveCondition data p) := by
  rw [resolveCondition, resolveCondition, resolve_move]
  refine bind_bimap fun value => ?_
  cases value <;> rfl

end Arg

theorem Action.expand_move (data : Data) (p : Position) (a : Action) :
    a.expand data (f p) = bimap (CompileError.move f) id (a.expand data p) := by
  cases a with
  | bind b arg =>
      rw [expand, expand, Arg.resolve_move]
      refine bind_bimap fun value => ?_
      simp only [id]
      cases b.accept? value <;> rfl
  | inList items =>
      rw [expand, expand, Arg.resolveList_move]
      exact bind_bimap fun _ => rfl
  | multi subTemplate separator items =>
      rw [expand, expand, Arg.resolveString_move, Arg.resolveString_move, Arg.resolveList_move]
      exact bind_bimap fun _ => bind_bimap fun _ => bind_bimap fun _ => rfl

namespace Node

mutual

theorem expand_move (data : Data) (node : Node) :
    expand data (node.move f) = bimap (CompileError.move f) id (expand data node) := by
  cases node with
  | text t => rfl
  | action a p => exact a.expand_move f data p
  | block condition p body =>
      rw [move, expand, expand, Arg.resolveCondition_move]
      refine bind_bimap fun holds => ?_
      cases holds with
      | false => rfl
      | true => exact expandAll_move data body

theorem expandAll_move (data : Data) (nodes : List Node) :
    expandAll data (moveAll f nodes) = bimap (CompileError.move f) id (expandAll data nodes) := by
  cases nodes with
  | nil => rfl
  | cons node nodes =>
      rw [moveAll, expandAll, expandAll, expand_move data node, expandAll_move data nodes]
      exact bind_bimap fun _ => bind_bimap fun _ => rfl

end

end Node

/-! ## Comments at given places -/

/-- The elements from a gap on, given the comments behind it and their places. -/
def Element.ofPlaced (trims : Bool) (gap : Text) : List (Position × Span) → List Element
  | [] => [text (trimmed trims false gap)]
  | (p, s) :: rest =>
    text (trimmed trims s.trimsLeft gap) :: comment p s :: ofPlaced s.trimsRight s.gap rest

namespace Element

theorem ofSpans_eq_ofPlaced (p : Position) (trims : Bool) (gap : Text) (spans : List Span) :
    ofSpans p trims gap spans = ofPlaced trims gap (Layout.locate (p.advance gap) spans) := by
  induction spans generalizing p trims gap with
  | nil => rfl
  | cons s rest ih =>
      rw [ofSpans, Layout.locate, ofPlaced, ih, Span.text, Position.advance_append]

theorem map_move_ofPlaced (trims : Bool) (gap : Text) (placed : List (Position × Span)) :
    (ofPlaced trims gap placed).map (move f) =
      ofPlaced trims gap (placed.map fun (p, s) => (f p, s)) := by
  induction placed generalizing trims gap with
  | nil => rfl
  | cons c rest ih => simp [ofPlaced, move, ih]

end Element

namespace Layout

/-- The place of the comment behind `i` others. -/
def place (l : Layout) (i : Nat) : Position := .after (l.lead ++ (l.spans.take i).flatMap Span.text)

theorem locate_eq_mapIdx (p : Position) (spans : List Span) : locate p spans =
    spans.mapIdx fun i s => (p.advance ((spans.take i).flatMap Span.text), s) := by
  induction spans generalizing p with
  | nil => rfl
  | cons s rest ih => simp [locate, ih, List.mapIdx_cons]

theorem located_eq_mapIdx (l : Layout) : l.located = l.spans.mapIdx fun i s => (l.place i, s) := by
  rw [located, locate_eq_mapIdx]
  simp [place, Position.after]

end Layout

namespace Query

/-- The query of a layout for data, its comments put at given places. -/
def compileAt (style : PlaceholderStyle) (place : Nat → Position) (l : Layout) (data : Data) :
    Except CompileError Query := do
  let placed := l.spans.mapIdx fun i s => (place i, s)
  let growth ← (Element.ofPlaced false l.lead placed).foldlM Growth.addElement .empty
  let nodes ← growth.finish
  let pieces ← Node.expandAll data nodes
  return ofPieces style pieces

variable {style : PlaceholderStyle} {place place' : Nat → Position} {l : Layout} {data : Data}
  {e : CompileError}

/-- A cleaned template without an unclosed comment is compiled with its comments where they are. -/
theorem compile_eq_compileAt {cleaned : Text} (h : (Layout.ofText cleaned).unclosed? = none) :
    compile style cleaned data =
      compileAt style (Layout.ofText cleaned).place (Layout.ofText cleaned) data := by
  have helements : Element.ofLayout (Layout.ofText cleaned) =
      Element.ofPlaced false (Layout.ofText cleaned).lead (Layout.ofText cleaned).located :=
    Element.ofSpans_eq_ofPlaced _ _ _ _
  rw [compile, Node.ofText?, compileAt, ← Layout.located_eq_mapIdx, ← helements]
  simp only [h, bind_assoc]

/-- Moving the comments moves the error, and nothing else. -/
theorem compileAt_comp (style : PlaceholderStyle) (place : Nat → Position) (l : Layout)
    (data : Data) : compileAt style (f ∘ place) l data =
      bimap (CompileError.move f) id (compileAt style place l data) := by
  have hplaced : (l.spans.mapIdx fun i s => ((f ∘ place) i, s)) =
      (l.spans.mapIdx fun i s => (place i, s)).map fun (p, s) => (f p, s) := by
    simp [List.mapIdx_eq_zipIdx_map, Function.comp_def]
  have hempty : Growth.empty = Growth.empty.move f := rfl
  rw [compileAt, compileAt, hplaced, ← Element.map_move_ofPlaced, hempty,
    Outcome.foldlM_bimap (Growth.addElement_move f)]
  refine bind_bimap fun growth => ?_
  rw [Growth.finish_move]
  refine bind_bimap fun nodes => ?_
  rw [Node.expandAll_move]
  exact bind_bimap fun _ => rfl

theorem compileAt_congr (h : ∀ i < l.spans.length, place i = place' i) :
    compileAt style place l data = compileAt style place' l data := by
  have hplaced : (l.spans.mapIdx fun i s => (place i, s)) =
      l.spans.mapIdx fun i s => (place' i, s) := by
    refine List.mapIdx_eq_mapIdx_iff.2 fun i hi => ?_
    rw [h i hi]
  rw [compileAt, compileAt, hplaced]

/-- Whether an error belongs to the comment behind `i` others: wherever the comments are put, it
is the error of the layout, at the place of that comment. -/
def DueTo (style : PlaceholderStyle) (l : Layout) (data : Data) (e : CompileError) (i : Nat) :
    Prop :=
  i < l.spans.length ∧ ∀ place, compileAt style place l data = .error (e.move fun _ => place i)

/-- Every error belongs to a comment, and is reported at the place of it. -/
theorem exists_dueTo (h : compileAt style place l data = .error e) :
    ∃ i, DueTo style l data e i ∧ e.position = place i := by
  -- with the comments numbered in place of placed, the error shows the number of one
  let number : Nat → Position := fun i => ⟨i, 0, 0⟩
  have hnumbered (place' : Nat → Position) : compileAt style place' l data =
      bimap (CompileError.move fun p => place' p.offset) id (compileAt style number l data) :=
    compileAt_comp (fun p => place' p.offset) style number l data
  rw [hnumbered place] at h
  cases houtcome : compileAt style number l data with
  | ok query => simp [houtcome] at h
  | error e₀ =>
      rw [houtcome] at h hnumbered
      cases h
      have hall (place' : Nat → Position) : compileAt style place' l data =
          .error ((e₀.move fun p => place p.offset).move fun _ => place' e₀.position.offset) := by
        rw [hnumbered, CompileError.move_move]
        exact congrArg Except.error (CompileError.move_congr rfl)
      refine ⟨e₀.position.offset, ⟨?_, hall⟩, by simp⟩
      -- a place behind the last comment is not looked at, so it cannot show in the error
      refine Nat.lt_of_not_le fun hlast => ?_
      have hsame : compileAt style number l data = compileAt style
          (fun i => if i < l.spans.length then number i else ⟨i + 1, 0, 0⟩) l data :=
        compileAt_congr fun i hi => by simp [hi]
      rw [hall, hall, Except.error.injEq] at hsame
      have hplace := congrArg CompileError.position hsame
      simp [number, Nat.not_lt.2 hlast] at hplace

end Query

end TwoWaySql

import TwoWaySql.Proofs.Offsets.Strip
import TwoWaySql.Proofs.Query.Structure

/-!
# Trees by offsets

The tree of a template is built along the comments that scanning by offsets finds, from the slices
between them. A directive keeps its arguments as a list in this tree, and only a check while the
tree is built says that there are as many as its keyword asks for. Building goes through all its
slices and gives the tree of the template, with the arguments of every directive put in a list.

## Main definitions

* `Checked` — computations that may stop, or end in an error.
* `RawNode` — nodes whose directives have a list of arguments.
* `Offsets.tree?` — the tree of a template.
-/
namespace TwoWaySql

/-- A computation that has no result where it stops, and else ends in an error or a value. -/
abbrev Checked := ExceptT CompileError Option

namespace Checked

variable {α β γ : Type}

/-- A computation that does not stop. -/
def of (x : Except CompileError α) : Checked α := ExceptT.mk (some x)

theorem liftM_some_bind (a : α) (f : α → Checked β) : ((liftM (some a) : Checked α) >>= f) = f a :=
  rfl

/-- What follows a computation that does not stop does not stop, if it does not for any value. -/
theorem of_bind {x : Except CompileError α} {f : α → Checked β} {g : α → Except CompileError β}
    (h : ∀ a, f a = of (g a)) : (of x >>= f) = of (x >>= g) := by
  cases x with
  | ok a => exact h a
  | error e => rfl

theorem of_map_bind {m : α → β} {x : Except CompileError α} {f : β → Checked γ}
    {g : α → Except CompileError γ} (h : ∀ a, f (m a) = of (g a)) :
    (of (x.map m) >>= f) = of (x >>= g) := by
  cases x with
  | ok a => exact h a
  | error e => rfl

end Checked

/-! ## Nodes with lists of arguments -/

/-- What a directive that emits SQL does, whatever its arguments are. -/
inductive ActionKind where
  /-- Binds one value. -/
  | bind (binder : Binder)
  /-- Binds the items of a list. -/
  | inList
  /-- Repeats SQL for each item of a list. -/
  | multi
deriving DecidableEq, Repr

namespace ActionKind

/-- The keyword of the directive. -/
def keyword : ActionKind → Keyword
  | bind binder => binder.keyword
  | inList => .inList
  | multi => .multi

/-- What the directive of a keyword does, if it emits SQL. -/
def ofKeyword? : Keyword → Option ActionKind
  | .param => some (.bind .param)
  | .int => some (.bind .int)
  | .float => some (.bind .float)
  | .string => some (.bind .string)
  | .inList => some .inList
  | .multi => some .multi
  | .ifBlock => none
  | .endBlock => none

end ActionKind

/-- What the directive of an action does. -/
def Action.kind : Action → ActionKind
  | bind binder _ => .bind binder
  | inList _ => .inList
  | multi .. => .multi

theorem Action.keyword_kind (a : Action) : a.kind.keyword = a.keyword := by cases a <;> rfl

/-- As many arguments as the keyword asks for make up an action. -/
theorem Action.exists_of_length {kind : ActionKind} {args : List Arg}
    (h : args.length = kind.keyword.arity) : ∃ a : Action, a.kind = kind ∧ a.args = args := by
  cases kind with
  | bind binder =>
      have hone : args.length = 1 := h.trans (by cases binder <;> rfl)
      obtain ⟨arg, rfl⟩ := List.length_eq_one_iff.1 hone
      exact ⟨.bind binder arg, rfl, rfl⟩
  | inList =>
      obtain ⟨items, rfl⟩ := List.length_eq_one_iff.1 h
      exact ⟨.inList items, rfl, rfl⟩
  | multi =>
      obtain ⟨subTemplate, separator, items, rfl⟩ := List.length_eq_three.1 h
      exact ⟨.multi subTemplate separator items, rfl, rfl⟩

/-- A piece of a template, the arguments of a directive being a list. -/
inductive RawNode where
  /-- Text that is copied. -/
  | text (t : Text)
  /-- A directive that emits SQL, at a place. -/
  | action (kind : ActionKind) (args : List Arg) (position : Position)
  /-- A block with its condition, the place of the condition, and what the block holds. -/
  | block (condition : Arg) (position : Position) (body : List RawNode)
deriving Repr

namespace RawNode

mutual

/-- A node with the arguments of its directive in a list. -/
def ofNode : Node → RawNode
  | .text t => .text t
  | .action a p => .action a.kind a.args p
  | .block condition p body => .block condition p (ofNodes body)

/-- Nodes with the arguments of their directives in lists. -/
def ofNodes : List Node → List RawNode
  | [] => []
  | node :: nodes => ofNode node :: ofNodes nodes

end

mutual

/-- The directives of a node that emit SQL, those in its blocks included. -/
def actions : RawNode → List (ActionKind × List Arg)
  | .text _ => []
  | .action kind args _ => [(kind, args)]
  | .block _ _ body => actionsOfAll body

/-- The directives of nodes that emit SQL. -/
def actionsOfAll : List RawNode → List (ActionKind × List Arg)
  | [] => []
  | node :: nodes => actions node ++ actionsOfAll nodes

end

@[simp] theorem ofNode_text (t : Text) : ofNode (.text t) = .text t := rfl

@[simp] theorem ofNode_action (a : Action) (p : Position) :
    ofNode (.action a p) = .action a.kind a.args p := rfl

@[simp] theorem ofNode_block (condition : Arg) (p : Position) (body : List Node) :
    ofNode (.block condition p body) = .block condition p (ofNodes body) := rfl

@[simp] theorem ofNodes_nil : ofNodes [] = [] := rfl

@[simp] theorem ofNodes_cons (node : Node) (nodes : List Node) :
    ofNodes (node :: nodes) = ofNode node :: ofNodes nodes := rfl

theorem ofNodes_eq_map (nodes : List Node) : ofNodes nodes = nodes.map ofNode := by
  induction nodes with
  | nil => rfl
  | cons node nodes ih => rw [ofNodes_cons, List.map_cons, ih]

mutual

/-- The directives of a tree have as many arguments as their keywords ask for. -/
theorem length_of_mem_actions (node : Node) :
    ∀ a ∈ actions (ofNode node), a.2.length = a.1.keyword.arity := by
  cases node with
  | text t => simp [actions]
  | action a p => simp [actions, a.length_args, a.keyword_kind]
  | block condition p body =>
      rw [ofNode_block, actions]
      exact length_of_mem_actionsOfAll body

theorem length_of_mem_actionsOfAll (nodes : List Node) :
    ∀ a ∈ actionsOfAll (ofNodes nodes), a.2.length = a.1.keyword.arity := by
  cases nodes with
  | nil => simp [actionsOfAll]
  | cons node nodes =>
      rw [ofNodes_cons, actionsOfAll]
      intro a ha
      rcases List.mem_append.1 ha with hnode | hnodes
      · exact length_of_mem_actions node a hnode
      · exact length_of_mem_actionsOfAll nodes a hnodes

end

end RawNode

/-! ## Growing trees -/

/-- A tree in the making, its nodes with lists of arguments. -/
structure RawGrowth where
  /-- The nodes so far, last first. -/
  nodes : List RawNode
  /-- The open blocks, innermost first. -/
  blocks : List (Arg × Position × List RawNode)
deriving Repr

namespace RawGrowth

/-- Nothing so far. -/
def empty : RawGrowth := ⟨[], []⟩

/-- A tree in the making with the arguments of its directives in lists. -/
def ofGrowth (g : Growth) : RawGrowth where
  nodes := RawNode.ofNodes g.nodes
  blocks := g.blocks.map fun (condition, p, before) => (condition, p, RawNode.ofNodes before)

/-- The tree after more text, if there is any. -/
def pushText (g : RawGrowth) (t : Text) : RawGrowth :=
  if t.isEmpty then g else { g with nodes := .text t :: g.nodes }

/-- The tree after one more directive. The number of its arguments is checked first. -/
def addDirective (g : RawGrowth) (d : Directive) : Except CompileError RawGrowth :=
  match d.keyword? with
  | none => .ok g
  | some k =>
    if d.args.length ≠ k.arity then .error (.arity ⟨k, d.args.length, d.position⟩)
    else
      match ActionKind.ofKeyword? k, k with
      | some kind, _ => .ok { g with nodes := .action kind d.args d.position :: g.nodes }
      | none, .ifBlock =>
        .ok ⟨[], (d.args.head?.getD (.bare []), d.position, g.nodes) :: g.blocks⟩
      | none, .endBlock =>
        match g.blocks with
        | [] => .error (.endWithoutIf d.position)
        | (condition, q, before) :: blocks =>
          .ok ⟨.block condition q g.nodes.reverse :: before, blocks⟩
      | none, _ => .ok g

/-- The finished tree, if no block is open. -/
def finish (g : RawGrowth) : Except CompileError (List RawNode) :=
  match g.blocks with
  | [] => .ok g.nodes.reverse
  | (_, p, _) :: _ => .error (.ifWithoutEnd p)

@[simp] theorem ofGrowth_mk (nodes : List Node) (blocks : List (Arg × Position × List Node)) :
    ofGrowth ⟨nodes, blocks⟩ = ⟨RawNode.ofNodes nodes,
      blocks.map fun (condition, p, before) => (condition, p, RawNode.ofNodes before)⟩ := rfl

/-- Text that is pushed is added as an element, and this does not fail. -/
theorem exists_addElement_text (g : Growth) (t : Text) :
    ∃ g', g.addElement (.text t) = .ok g' ∧ (ofGrowth g).pushText t = ofGrowth g' := by
  by_cases ht : t.isEmpty
  · refine ⟨g, ?_, ?_⟩ <;> simp [Growth.addElement, Element.step?, pushText, ht]
  · refine ⟨{ g with nodes := .text t :: g.nodes }, ?_, ?_⟩
    · simp [Growth.addElement, Element.step?, Growth.add, ht]
    · simp [pushText, ht, ofGrowth]

theorem reverse_ofNodes (nodes : List Node) :
    (RawNode.ofNodes nodes).reverse = RawNode.ofNodes nodes.reverse := by
  simp only [RawNode.ofNodes_eq_map, List.map_reverse]

/-- Checking the number of arguments first, and then adding, adds the element of the directive. -/
theorem addDirective_ofGrowth (g : Growth) {p : Position} {s : Span} {d : Directive}
    (hd : Directive.ofSpan? p s = some d) :
    (ofGrowth g).addDirective d = (g.addElement (.comment p s)).map ofGrowth := by
  rcases g with ⟨nodes, blocks⟩
  simp only [addDirective, Growth.addElement, Element.step?, hd]
  cases hk : d.keyword? with
  | none => simp [Directive.step?, hk]
  | some k =>
      by_cases hlength : d.args.length = k.arity
      · simp only [hlength, ne_eq, not_true_eq_false, if_false]
        cases k with
        | multi =>
            obtain ⟨subTemplate, separator, items, hargs⟩ := List.length_eq_three.1 hlength
            simp [Directive.step?, hk, hargs, ActionKind.ofKeyword?, Growth.add, Action.kind,
              Action.args]
        | endBlock =>
            have hargs := List.length_eq_zero_iff.1 hlength
            cases blocks <;>
              simp [Directive.step?, hk, hargs, ActionKind.ofKeyword?, Growth.add, reverse_ofNodes]
        | _ =>
            obtain ⟨arg, hargs⟩ := List.length_eq_one_iff.1 hlength
            simp [Directive.step?, hk, hargs, ActionKind.ofKeyword?, Growth.add, Action.kind,
              Action.args]
      · simp [Directive.step?_of_length_ne hk hlength, hlength]

theorem finish_ofGrowth (g : Growth) : (ofGrowth g).finish = g.finish.map RawNode.ofNodes := by
  rcases g with ⟨nodes, blocks⟩
  cases blocks with
  | nil => simp [finish, Growth.finish, reverse_ofNodes]
  | cons b blocks => rfl

end RawGrowth

/-! ## Trees -/

namespace Offsets

variable {source : Text}

/-- The tree after the text from an offset up to a comment, and after the comment. -/
def grow? (source : Text) (g : RawGrowth) (cursor : Nat) (trims : Bool) (c : Occurrence) :
    Checked RawGrowth := do
  let gap ← source.slice? cursor c.start
  match ← directive? source c with
  | none => do
    let p ← Position.at? source c.start
    throw (.emptyDirective p)
  | some d => (g.pushText (Element.trimmed trims c.trimsLeft gap)).addDirective d

/-- The tree after the text from an offset on, with its comments. -/
def growFrom? (source : Text) (g : RawGrowth) (cursor : Nat) (trims : Bool) :
    List Occurrence → Checked RawGrowth
  | [] => do
    let gap ← source.slice? cursor source.byteSize
    return g.pushText (Element.trimmed trims false gap)
  | c :: cs => do
    let g ← grow? source g cursor trims c
    growFrom? source g c.stop c.trimsRight cs

/-- The tree of a template. -/
def tree? (source : Text) : Checked (List RawNode) := do
  let (cs, unclosed?) ← scan? source
  match unclosed? with
  | some offset => do
    let p ← Position.at? source offset
    throw (.neverClosed p)
  | none => do
    let g ← growFrom? source .empty 0 false cs
    g.finish

/-- One round: the tree grows by a gap and the comment behind it. -/
theorem grow?_append (u gap after : Text) (s : Span) (g : Growth) (trims : Bool) :
    grow? (u ++ gap ++ s.comment ++ after) (.ofGrowth g) u.byteSize trims
        (s.occurrence (u ++ gap).byteSize) =
      .of ((g.addElement (.text (Element.trimmed trims s.trimsLeft gap)) >>= fun g =>
        g.addElement (.comment (.after (u ++ gap)) s)).map RawGrowth.ofGrowth) := by
  obtain ⟨g', hadd, hpush⟩ :=
    RawGrowth.exists_addElement_text g (Element.trimmed trims s.trimsLeft gap)
  have hgap : (u ++ gap ++ s.comment ++ after).slice? u.byteSize
      (s.occurrence (u ++ gap).byteSize).start = some gap := by
    rw [List.append_assoc _ s.comment]
    exact Text.slice?_append u gap _ rfl rfl
  have hplace : Position.at? (u ++ gap ++ s.comment ++ after)
      (s.occurrence (u ++ gap).byteSize).start = some (.after (u ++ gap)) := by
    rw [List.append_assoc _ s.comment]
    exact Position.at?_append (u ++ gap) _
  have hleft : (s.occurrence (u ++ gap).byteSize).trimsLeft = s.trimsLeft := rfl
  rw [grow?, hgap, Checked.liftM_some_bind, directive?_eq, Checked.liftM_some_bind, hplace, hleft,
    hpush, hadd, Outcome.ok_bind]
  cases hd : Directive.ofSpan? (.after (u ++ gap)) s with
  | none =>
      rw [Growth.addElement, Element.step?, hd]
      rfl
  | some d =>
      rw [← RawGrowth.addDirective_ofGrowth g' hd]
      rfl

/-- Behind a prefix, the tree grows by the elements of the rest of the text. -/
theorem growFrom?_append (u gap : Text) (spans : List Span) (g : Growth) (trims : Bool) :
    growFrom? (u ++ Layout.text ⟨gap, spans⟩) (.ofGrowth g) u.byteSize trims
        (Layout.occurrencesFrom (.after u) ⟨gap, spans⟩) =
      .of (((Element.ofSpans (.after u) trims gap spans).foldlM Growth.addElement g).map
        RawGrowth.ofGrowth) := by
  -- along the comments, the prefix growing by a gap and a comment at each
  induction spans generalizing u gap g trims with
  | nil =>
      obtain ⟨g', hadd, hpush⟩ :=
        RawGrowth.exists_addElement_text g (Element.trimmed trims false gap)
      have hgap : (u ++ Layout.text ⟨gap, []⟩).slice? u.byteSize
          (u ++ Layout.text ⟨gap, []⟩).byteSize = some gap :=
        (Text.slice?_rest u _ rfl rfl).trans (by simp [Layout.text])
      have hnone : Layout.occurrencesFrom (.after u) ⟨gap, []⟩ = [] := rfl
      rw [hnone, growFrom?, hgap, Checked.liftM_some_bind, hpush, Element.ofSpans, List.foldlM_cons,
        hadd]
      rfl
  | cons s spans ih =>
      have hstop : (s.occurrence (u ++ gap).byteSize).stop = (u ++ gap ++ s.comment).byteSize := by
        rw [Span.occurrence, Text.byteSize_append (u ++ gap)]
      have hround := grow?_append u gap (Layout.text ⟨s.gap, spans⟩) s g trims
      rw [Layout.append_text_cons, Layout.occurrencesFrom_cons, Element.ofSpans]
      simp only [Position.advance_after, Position.offset_after]
      rw [growFrom?, hround, hstop, List.foldlM_cons]
      simp only [List.foldlM_cons]
      rw [← bind_assoc]
      cases g.addElement (.text (Element.trimmed trims s.trimsLeft gap)) >>= fun g =>
          g.addElement (.comment (.after (u ++ gap)) s) with
      | error e => rfl
      | ok g' => exact ih (u ++ gap ++ s.comment) s.gap g' s.trimsRight

/-- **Building a tree by offsets** gives the tree of the template, or the error that it has. -/
theorem tree?_eq (source : Text) :
    tree? source = .of ((Node.ofText? source).map RawNode.ofNodes) := by
  have htext := Layout.text_ofText source
  rw [tree?, scan?_eq, Checked.liftM_some_bind]
  cases hunclosed : (Layout.ofText source).unclosed? with
  | some p =>
      have hplace := at?_of_unclosed? hunclosed
      simp only [Node.ofText?, hunclosed, Option.map_some, hplace]
      rfl
  | none =>
      have hgrow := growFrom?_append [] (Layout.ofText source).lead (Layout.ofText source).spans
        .empty false
      rw [List.nil_append, htext] at hgrow
      have hrounds : growFrom? source .empty 0 false (Layout.ofText source).occurrences =
          .of (((Element.ofLayout (Layout.ofText source)).foldlM Growth.addElement .empty).map
            RawGrowth.ofGrowth) := hgrow
      simp only [Node.ofText?, hunclosed, Option.map_none, hrounds]
      cases (Element.ofLayout (Layout.ofText source)).foldlM Growth.addElement .empty with
      | error e => rfl
      | ok g => exact congrArg Checked.of (RawGrowth.finish_ofGrowth g)

end Offsets

end TwoWaySql

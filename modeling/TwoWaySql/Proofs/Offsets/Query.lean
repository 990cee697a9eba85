import TwoWaySql.Proofs.Offsets.Tree
import TwoWaySql.Query.Basic

/-!
# Queries by offsets

A directive in a tree reads its arguments by their index. It finds them all when there are as many
as its keyword asks for, and a tree that building gives has no other directives. So a template is
compiled to its query, or to its error, without a slice or an argument that is missing.

## Main definitions

* `Offsets.execute?` — what a directive with a list of arguments expands to.
* `Offsets.compile?`, `Offsets.build?` — the query of a template.
* `Offsets.InPlace` — what reading a template by offsets comes to.
-/
namespace TwoWaySql.Offsets

variable {source : Text} {data : Data} {style : PlaceholderStyle}

/-! ## Expansion -/

/-- The pieces that a directive with a list of arguments expands to. -/
def execute? (data : Data) (position : Position) (args : List Arg) :
    ActionKind → Checked (List Piece)
  | .bind binder => do
    let arg ← (args[0]? : Option Arg)
    let value ← arg.resolve data position
    match binder.accept? value with
    | some value => return [.bound value]
    | none => throw (.typeMismatch binder.keyword 1 binder.type value.typeWord position)
  | .inList => do
    let arg ← (args[0]? : Option Arg)
    let items ← arg.resolveList data .inList 1 position
    return .text "(" :: Piece.bindAll items ++ [.text ")"]
  | .multi => do
    let arg ← (args[0]? : Option Arg)
    let subTemplate ← arg.resolveString data .multi 1 position
    let arg ← (args[1]? : Option Arg)
    let separator ← arg.resolveString data .multi 2 position
    let arg ← (args[2]? : Option Arg)
    let items ← arg.resolveList data .multi 3 position
    return Piece.copies subTemplate (joiner separator) items

mutual

/-- The pieces that a node expands to. -/
def render? (data : Data) : RawNode → Checked (List Piece)
  | .text t => return [.text t]
  | .action kind args p => execute? data p args kind
  | .block condition p body => do
    if ← condition.resolveCondition data p then renderAll? data body else return []

/-- The pieces that nodes expand to. -/
def renderAll? (data : Data) : List RawNode → Checked (List Piece)
  | [] => return []
  | node :: nodes => do
    let pieces ← render? data node
    let rest ← renderAll? data nodes
    return pieces ++ rest

end

/-- A directive of a tree finds its arguments. -/
theorem execute?_eq (data : Data) (p : Position) (a : Action) :
    execute? data p a.args a.kind = .of (a.expand data p) := by
  cases a with
  | bind binder arg =>
      refine Checked.of_bind (x := arg.resolve data p) fun value => ?_
      cases binder.accept? value <;> rfl
  | inList items => exact Checked.of_bind fun items => rfl
  | multi subTemplate separator items =>
      change Checked.of (subTemplate.resolveString data .multi 1 p) >>= _ = _
      refine Checked.of_bind fun subTemplate => ?_
      change Checked.of (separator.resolveString data .multi 2 p) >>= _ = _
      refine Checked.of_bind fun separator => ?_
      exact Checked.of_bind fun items => rfl

/-- As many arguments as its keyword asks for are enough for a directive. -/
theorem exists_execute?_eq (data : Data) (p : Position) {kind : ActionKind} {args : List Arg}
    (h : args.length = kind.keyword.arity) :
    ∃ outcome, execute? data p args kind = .of outcome := by
  obtain ⟨a, rfl, rfl⟩ := Action.exists_of_length h
  exact ⟨_, execute?_eq data p a⟩

mutual

theorem render?_eq (data : Data) (node : Node) :
    render? data (.ofNode node) = .of (Node.expand data node) := by
  cases node with
  | text t => rfl
  | action a p => exact execute?_eq data p a
  | block condition p body =>
      refine Checked.of_bind (x := condition.resolveCondition data p) fun holds => ?_
      cases holds with
      | false => rfl
      | true => exact renderAll?_eq data body

/-- A tree is expanded without a missing argument. -/
theorem renderAll?_eq (data : Data) (nodes : List Node) :
    renderAll? data (RawNode.ofNodes nodes) = .of (Node.expandAll data nodes) := by
  cases nodes with
  | nil => rfl
  | cons node nodes =>
      rw [RawNode.ofNodes, renderAll?, render?_eq data node]
      refine Checked.of_bind fun pieces => ?_
      rw [renderAll?_eq data nodes]
      exact Checked.of_bind fun rest => rfl

end

/-! ## Queries -/

/-- The query of a cleaned template for data. -/
def compile? (style : PlaceholderStyle) (cleaned : Text) (data : Data) : Checked Query := do
  let nodes ← tree? cleaned
  let pieces ← renderAll? data nodes
  return Query.ofPieces style pieces

/-- The query of a template for data. -/
def build? (style : PlaceholderStyle) (template : Text) (data : Data) : Checked Query := do
  let (cleaned, _) ← strip? template
  compile? style cleaned data

theorem compile?_eq (style : PlaceholderStyle) (cleaned : Text) (data : Data) :
    compile? style cleaned data = .of (Query.compile style cleaned data) := by
  rw [compile?, tree?_eq]
  refine Checked.of_map_bind fun nodes => ?_
  rw [renderAll?_eq]
  exact Checked.of_bind fun pieces => rfl

theorem build?_eq (style : PlaceholderStyle) (template : Text) (data : Data) :
    build? style template data = .of (Query.build style template data) := by
  rw [build?, strip?_eq, Checked.liftM_some_bind]
  exact compile?_eq style (strip template) data

/-! ## Everything in place -/

/-- What reading a template by offsets comes to. No step is without a slice or an argument that it
asks for, and each has the result that cutting the template gives. -/
structure InRange (source : Text) (style : PlaceholderStyle) (data : Data) : Prop where
  /-- The comments are found. -/
  scan : scan? source = some ((Layout.ofText source).occurrences,
    (Layout.ofText source).unclosed?.map (·.offset))
  /-- The opener without a closer has a place. -/
  unclosed : ∀ p ∈ (Layout.ofText source).unclosed?, Position.at? source p.offset = some p
  /-- Every comment has a place. -/
  position : ∀ p s, (p, s) ∈ (Layout.ofText source).located →
    Position.at? source p.offset = some p
  /-- Every comment has a body. -/
  body : ∀ p s, (p, s) ∈ (Layout.ofText source).located →
    body? source (s.occurrence p.offset) = some s.body
  /-- The directive of every comment is read. -/
  directive : ∀ p s, (p, s) ∈ (Layout.ofText source).located →
    directive? source (s.occurrence p.offset) = some (Directive.ofSpan? p s)
  /-- Every token is classified. -/
  argument : ∀ token, classify? token = some (Arg.ofToken token)
  /-- Dummy literals are looked for in any text. -/
  dummy : ∀ t, matchDummy? t = some ((Literal.dummy? t).map sized)
  /-- A literal at the start of a text is a slice of it. -/
  literal : ∀ t shape len, literalPrefix t = some (shape, len) → ∃ literal,
    Literal.starting? t = some literal ∧ t.slice? 0 len = some literal.text
  /-- Dummy literals are stripped. -/
  strip : strip? source = some (strip source, unstripped source)
  /-- The tree is built, or the template has an error. -/
  tree : tree? source = .of ((Node.ofText? source).map RawNode.ofNodes)
  /-- The directives of the tree have as many arguments as their keywords ask for. -/
  arity : ∀ nodes, tree? source = .of (.ok nodes) →
    ∀ a ∈ RawNode.actionsOfAll nodes, a.2.length = a.1.keyword.arity
  /-- With so many arguments, a directive is executed. -/
  execute : ∀ p args kind, args.length = kind.keyword.arity →
    ∃ outcome, execute? data p args kind = .of outcome
  /-- The template is compiled as it stands. -/
  compile : compile? style source data = .of (Query.compile style source data)
  /-- The template is compiled without its dummy literals. -/
  build : build? style source data = .of (Query.build style source data)

/-- **No offset is out of place, and no argument out of range**, whatever the template and the data
are. -/
theorem inRange (source : Text) (style : PlaceholderStyle) (data : Data) :
    InRange source style data where
  scan := scan?_eq source
  unclosed := fun _ => at?_of_unclosed?
  position := by
    intro p s h
    obtain ⟨before, after, rfl, rfl⟩ := Layout.exists_of_mem_located h
    rw [Position.offset_after, List.append_assoc]
    exact Position.at?_append before (s.comment ++ after)
  body := by
    intro p s h
    obtain ⟨before, after, rfl, rfl⟩ := Layout.exists_of_mem_located h
    rw [Position.offset_after]
    exact body?_eq before after s
  directive := by
    intro p s h
    obtain ⟨before, after, rfl, rfl⟩ := Layout.exists_of_mem_located h
    rw [Position.offset_after]
    exact directive?_eq before after s
  argument := classify?_eq
  dummy := matchDummy?_eq
  literal := by
    intro t shape len h
    rw [literalPrefix_eq] at h
    obtain ⟨literal, hliteral, hsized⟩ := Option.map_eq_some_iff.1 h
    cases hsized
    refine ⟨literal, hliteral, ?_⟩
    have hslice := Text.slice?_append [] literal.text literal.rest rfl rfl
    rwa [List.nil_append, ← eq_append_of_starting? hliteral] at hslice
  strip := strip?_eq source
  tree := tree?_eq source
  arity := by
    intro nodes htree
    rw [tree?_eq] at htree
    have hmap : (Node.ofText? source).map RawNode.ofNodes = .ok nodes := Option.some.inj htree
    cases hnodes : Node.ofText? source with
    | error e => simp [hnodes] at hmap
    | ok nodes' =>
        rw [hnodes] at hmap
        cases hmap
        exact RawNode.length_of_mem_actionsOfAll nodes'
  execute := fun p args kind h => exists_execute?_eq data p h
  compile := compile?_eq style source data
  build := build?_eq style source data

end TwoWaySql.Offsets

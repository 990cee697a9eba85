import TwoWaySql.Query.Error

/-!
# The tree of a template

A cleaned template is a row of nodes: text, directives that bind values, and blocks with nodes of
their own. Trim markers are spent here, so what follows never touches blanks.
-/
namespace TwoWaySql

/-- The directives that bind one value. -/
inductive Binder where
  /-- Anything but a list. -/
  | param
  /-- An integer. -/
  | int
  /-- A number, as a floating point number. -/
  | float
  /-- A string. -/
  | string
deriving DecidableEq, Repr

/-- The keyword of a directive that binds one value. -/
def Binder.keyword : Binder → Keyword
  | .param => .param
  | .int => .int
  | .float => .float
  | .string => .string

/-- A directive that emits SQL. -/
inductive Action where
  /-- Binds one value. -/
  | bind (binder : Binder) (arg : Arg)
  /-- Binds the items of a list. -/
  | inList (items : Arg)
  /-- Repeats SQL for each item of a list. -/
  | multi (subTemplate separator items : Arg)
deriving DecidableEq, Repr

namespace Action

/-- The keyword of the directive. -/
def keyword : Action → Keyword
  | bind binder _ => binder.keyword
  | inList _ => .inList
  | multi .. => .multi

/-- The arguments of the directive. -/
def args : Action → List Arg
  | bind _ arg => [arg]
  | inList items => [items]
  | multi subTemplate separator items => [subTemplate, separator, items]

/-- An action has the arguments that its signature asks for. -/
theorem length_args (a : Action) : a.args.length = a.keyword.arity := by
  cases a with
  | bind binder => cases binder <;> rfl
  | _ => rfl

end Action

/-- A piece of a template. -/
inductive Node where
  /-- Text that is copied. -/
  | text (t : Text)
  /-- A directive that emits SQL, at a place. -/
  | action (a : Action) (position : Position)
  /-- A block with its condition, the place of the condition, and what the block holds. -/
  | block (condition : Arg) (position : Position) (body : List Node)
deriving Repr

/-- One step in building the tree. -/
inductive Step where
  /-- Appends text. -/
  | text (t : Text)
  /-- Appends a directive that emits SQL. -/
  | action (a : Action) (position : Position)
  /-- Opens a block. -/
  | opens (condition : Arg) (position : Position)
  /-- Closes the innermost block. -/
  | closes (position : Position)
deriving DecidableEq, Repr

namespace Directive

/-- The step that a directive asks for: none if the catalog does not have it, and an error if it
has the wrong number of arguments. -/
def step? (d : Directive) : Except CompileError (Option Step) :=
  match d.keyword?, d.args with
  | none, _ => .ok none
  | some .param, [arg] => .ok (some (.action (.bind .param arg) d.position))
  | some .int, [arg] => .ok (some (.action (.bind .int arg) d.position))
  | some .float, [arg] => .ok (some (.action (.bind .float arg) d.position))
  | some .string, [arg] => .ok (some (.action (.bind .string arg) d.position))
  | some .inList, [items] => .ok (some (.action (.inList items) d.position))
  | some .multi, [subTemplate, separator, items] =>
    .ok (some (.action (.multi subTemplate separator items) d.position))
  | some .ifBlock, [condition] => .ok (some (.opens condition d.position))
  | some .endBlock, [] => .ok (some (.closes d.position))
  | some k, args => .error (.arity ⟨k, args.length, d.position⟩)

end Directive

/-- A text or a comment of a template, trim markers spent. -/
inductive Element where
  /-- The text between two comments. -/
  | text (t : Text)
  /-- A comment, at a place. -/
  | comment (position : Position) (span : Span)
deriving DecidableEq, Repr

namespace Element

/-- A gap without the blanks that the comments around it want gone. -/
def trimmed (trimsStart trimsEnd : Bool) (gap : Text) : Text :=
  let gap := if trimsStart then gap.trimStart else gap
  if trimsEnd then gap.trimEnd else gap

/-- The elements from a gap on, given what the comment before it wants. -/
def ofSpans (position : Position) (trimsStart : Bool) (gap : Text) : List Span → List Element
  | [] => [text (trimmed trimsStart false gap)]
  | s :: rest =>
    text (trimmed trimsStart s.trimsLeft gap) :: comment (position.advance gap) s ::
      ofSpans ((position.advance gap).advance s.comment) s.trimsRight s.gap rest

/-- The elements of a template. -/
def ofLayout (l : Layout) : List Element := ofSpans Position.start false l.lead l.spans

/-- The step that an element asks for. -/
def step? : Element → Except CompileError (Option Step)
  | text t => .ok (if t.isEmpty then none else some (.text t))
  | comment p span =>
    match Directive.ofSpan? p span with
    | none => .error (.emptyDirective p)
    | some d => d.step?

end Element

/-- A tree in the making: the nodes of the innermost open block, last first, and for each open
block from the inside out its condition, its place and the nodes before it, last first. -/
structure Growth where
  /-- The nodes so far, last first. -/
  nodes : List Node
  /-- The open blocks, innermost first. -/
  blocks : List (Arg × Position × List Node)
deriving Repr

namespace Growth

/-- Nothing so far. -/
def empty : Growth := ⟨[], []⟩

/-- The tree after one more step. -/
def add (g : Growth) : Step → Except CompileError Growth
  | .text t => .ok { g with nodes := .text t :: g.nodes }
  | .action a p => .ok { g with nodes := .action a p :: g.nodes }
  | .opens condition p => .ok ⟨[], (condition, p, g.nodes) :: g.blocks⟩
  | .closes p =>
    match g.blocks with
    | [] => .error (.endWithoutIf p)
    | (condition, q, before) :: blocks =>
      .ok ⟨.block condition q g.nodes.reverse :: before, blocks⟩

/-- The tree after one more element. -/
def addElement (g : Growth) (e : Element) : Except CompileError Growth := do
  match ← e.step? with
  | none => return g
  | some step => g.add step

/-- The finished tree, if no block is open. -/
def finish (g : Growth) : Except CompileError (List Node) :=
  match g.blocks with
  | [] => .ok g.nodes.reverse
  | (_, p, _) :: _ => .error (.ifWithoutEnd p)

end Growth

namespace Node

/-- The tree of a cleaned template. -/
def ofText? (source : Text) : Except CompileError (List Node) := do
  let layout := Layout.ofText source
  match layout.unclosed? with
  | some p => .error (.neverClosed p)
  | none =>
    let growth ← (Element.ofLayout layout).foldlM Growth.addElement Growth.empty
    growth.finish

end Node

end TwoWaySql

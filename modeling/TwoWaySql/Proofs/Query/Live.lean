import TwoWaySql.Proofs.Query.Repetition

/-!
# What a step writes

Where a pass over a template is live, a step writes what its kind and its arguments say. A text is
written as it is. A directive for one value writes the next placeholder and binds the value, one
for a list a placeholder for each of its items, in parentheses or in copies of a piece of SQL. A
condition is resolved and then stands on top of the open blocks. Where the pass is not live, only
the open blocks change. These rules are a relation here, and a step of the pass meets them both
ways: it takes no other step, and it fails only where none of them applies.

## Main definitions

* `Arg.StandsFor` — the value of an argument.
* `Binder.Takes` — the values that a directive for one value takes, and what it binds for them.
* `Action.Writes` — the text and the arguments that a directive writes.
* `Pass.Next` — the pass after a step.
-/
namespace TwoWaySql

variable {style : PlaceholderStyle} {data : Data} {p : Position}

namespace Arg

variable {arg : Arg} {value : Value} {keyword : Keyword} {index : Nat}

/-- Whether an argument stands for a value: a field for what the data have under its name, a quoted
text for itself, and a bare word for the value that it spells. -/
inductive StandsFor (data : Data) : Arg → Value → Prop
  | field {name : Text} {value : Value} (h : data name = some value) :
      StandsFor data (.field name) value
  | quoted (t : Text) : StandsFor data (.quoted t) (.string t)
  | bare {t : Text} {value : Value} (h : Value.ofLiteral? t = some value) :
      StandsFor data (.bare t) value

theorem resolve_eq_ok_iff : arg.resolve data p = .ok value ↔ arg.StandsFor data value := by
  constructor
  · intro h
    cases arg with
    | field name =>
        rw [resolve] at h
        split at h
        · next hvalue =>
          cases h
          exact .field hvalue
        · cases h
    | quoted t =>
        cases h
        exact .quoted t
    | bare t =>
        rw [resolve] at h
        split at h
        · next hvalue =>
          cases h
          exact .bare hvalue
        · cases h
  · rintro (h | t | h)
    · rw [resolve, h]
    · rfl
    · rw [resolve, h]

theorem resolveString_eq_ok_iff {t : Text} :
    arg.resolveString data keyword index p = .ok t ↔ arg.resolve data p = .ok (.string t) := by
  rw [resolveString]
  cases arg.resolve data p with
  | error e => simp
  | ok value => cases value <;> simp

theorem resolveList_eq_ok_iff {items : List Value} :
    arg.resolveList data keyword index p = .ok items ↔ arg.resolve data p = .ok (.list items) := by
  rw [resolveList]
  cases arg.resolve data p with
  | error e => simp
  | ok value => cases value <;> simp

theorem resolveCondition_eq_ok_iff {holds : Bool} :
    arg.resolveCondition data p = .ok holds ↔ arg.resolve data p = .ok (.bool holds) := by
  rw [resolveCondition]
  cases arg.resolve data p with
  | error e => simp
  | ok value => cases value <;> simp

end Arg

namespace Binder

/-- Whether a directive for one value takes what it is given, and what it binds then: a value that
is no list, or one of its own type; an integer serves as a floating point number. -/
inductive Takes : Binder → Value → Value → Prop
  | param {v : Value} (h : ∀ items, v ≠ .list items) : Takes .param v v
  | int (i : Int64) : Takes .int (.int i) (.int i)
  | float (x : Binary64) : Takes .float (.float x) (.float x)
  | rounded (i : Int64) : Takes .float (.int i) (.float (Binary64.ofInt i.toInt))
  | string (t : Text) : Takes .string (.string t) (.string t)

theorem accept?_eq_some_iff {b : Binder} {given v : Value} :
    b.accept? given = some v ↔ b.Takes given v := by
  constructor
  · intro h
    cases b <;> cases given <;> cases h <;> constructor <;> nofun
  · intro h
    cases h with
    | param h =>
        cases given with
        | list items => exact absurd rfl (h items)
        | _ => rfl
    | _ => rfl

end Binder

namespace Action

variable {a : Action} {n : Nat} {sql : Text} {args : List Value}

/-- What a directive writes behind `n` arguments: the next placeholder for one value; a tuple of
placeholders for the items of a list; or a piece of SQL once for each item, the joiner of the
separator between two copies, with a placeholder for each question mark in it. -/
inductive Writes (style : PlaceholderStyle) (data : Data) (n : Nat) :
    Action → Text → List Value → Prop
  | value {binder : Binder} {arg : Arg} {given v : Value} (h : arg.StandsFor data given)
      (hv : binder.Takes given v) :
      Writes style data n (.bind binder arg) (style.placeholder (n + 1)) [v]
  | tuple {list : Arg} {items : List Value} (h : list.StandsFor data (.list items)) :
      Writes style data n (.inList list) (style.tuple n items.length) items
  | copies {subTemplate separator list : Arg} {t s : Text} {items : List Value}
      (ht : subTemplate.StandsFor data (.string t)) (hs : separator.StandsFor data (.string s))
      (h : list.StandsFor data (.list items)) :
      Writes style data n (.multi subTemplate separator list)
        (style.repeated n t (joiner s) items.length)
        (items.flatMap (List.replicate (t.count '?')))

/-- The pieces of a directive come to what it writes. -/
theorem writes_iff : a.Writes style data n sql args ↔ ∃ pieces, a.expand data p = .ok pieces ∧
    Piece.sql style n pieces = sql ∧ Piece.args pieces = args := by
  constructor
  · intro h
    cases h with
    | @value binder arg given v h hv =>
        have hexpand : (bind binder arg).expand data p = .ok [.bound v] := by
          rw [expand, Arg.resolve_eq_ok_iff.2 h, Outcome.ok_bind, Binder.accept?_eq_some_iff.2 hv]
          rfl
        exact ⟨_, hexpand, by simp [Piece.sql], rfl⟩
    | tuple h =>
        exact ⟨_, expand_inList (Arg.resolve_eq_ok_iff.2 h), Piece.sql_tuple style n args,
          Piece.args_tuple args⟩
    | copies ht hs h =>
        exact ⟨_, expand_multi (Arg.resolve_eq_ok_iff.2 ht) (Arg.resolve_eq_ok_iff.2 hs)
          (Arg.resolve_eq_ok_iff.2 h), Piece.sql_copies style n _ _ _, Piece.args_copies _ _ _⟩
  · rintro ⟨pieces, h, rfl, rfl⟩
    cases a with
    | bind binder arg =>
        obtain ⟨given, hgiven, htaken⟩ := Outcome.bind_eq_ok.1 h
        cases haccept : binder.accept? given with
        | none => simp [haccept] at htaken
        | some v =>
            simp only [haccept, Outcome.pure_eq_ok, Except.ok.injEq] at htaken
            subst htaken
            have hwrites : (bind binder arg).Writes style data n (style.placeholder (n + 1)) [v] :=
              .value (Arg.resolve_eq_ok_iff.1 hgiven) (Binder.accept?_eq_some_iff.1 haccept)
            simpa [Piece.sql, Piece.args] using hwrites
    | inList list =>
        obtain ⟨items, hlist, -⟩ := Outcome.bind_eq_ok.1 h
        rw [Arg.resolveList_eq_ok_iff] at hlist
        rw [expand_inList hlist] at h
        cases h
        rw [Piece.sql_tuple, Piece.args_tuple]
        exact .tuple (Arg.resolve_eq_ok_iff.1 hlist)
    | multi subTemplate separator list =>
        obtain ⟨t, ht, hrest⟩ := Outcome.bind_eq_ok.1 h
        obtain ⟨s, hs, hrest⟩ := Outcome.bind_eq_ok.1 hrest
        obtain ⟨items, hlist, -⟩ := Outcome.bind_eq_ok.1 hrest
        rw [Arg.resolveString_eq_ok_iff] at ht hs
        rw [Arg.resolveList_eq_ok_iff] at hlist
        rw [expand_multi ht hs hlist] at h
        cases h
        rw [Piece.sql_copies, Piece.args_copies]
        exact .copies (Arg.resolve_eq_ok_iff.1 ht) (Arg.resolve_eq_ok_iff.1 hs)
          (Arg.resolve_eq_ok_iff.1 hlist)

end Action

namespace Pass

variable {pass next : Pass} {s : Step}

/-- The pass after a step. Where the pass is live, a text and what a directive writes go behind
what there is, and a condition that is resolved goes on top of the open blocks; where it is not,
only the open blocks change. -/
inductive Next (style : PlaceholderStyle) (data : Data) (pass : Pass) : Step → Pass → Prop
  | text (hlive : pass.live = true) (t : Text) : Next style data pass (.text t) (pass.write t [])
  | action (hlive : pass.live = true) {a : Action} (p : Position) {sql : Text}
      {args : List Value} (h : a.Writes style data pass.query.args.length sql args) :
      Next style data pass (.action a p) (pass.write sql args)
  | opens (hlive : pass.live = true) {condition : Arg} (p : Position) {holds : Bool}
      (h : condition.StandsFor data (.bool holds)) :
      Next style data pass (.opens condition p) ⟨pass.query, some holds :: pass.conditions⟩
  | deadText (hdead : pass.live = false) (t : Text) : Next style data pass (.text t) pass
  | deadAction (hdead : pass.live = false) (a : Action) (p : Position) :
      Next style data pass (.action a p) pass
  | deadOpens (hdead : pass.live = false) (condition : Arg) (p : Position) :
      Next style data pass (.opens condition p) ⟨pass.query, none :: pass.conditions⟩
  | closes (p : Position) : Next style data pass (.closes p) ⟨pass.query, pass.conditions.tail⟩

theorem step_text (hlive : pass.live = true) (t : Text) :
    pass.step style data (.text t) = .ok (pass.write t []) := by
  simp [step, hlive, Query.push, write]

/-- A pass that is live goes on by what a directive writes. -/
theorem step_action_eq_ok_iff (hlive : pass.live = true) {a : Action} :
    pass.step style data (.action a p) = .ok next ↔ ∃ sql args,
      a.Writes style data pass.query.args.length sql args ∧ next = pass.write sql args := by
  constructor
  · intro h
    cases hpieces : a.expand data p with
    | error e => simp [step, hlive, hpieces] at h
    | ok pieces =>
        rw [step_of_expand hlive hpieces, emit_eq_write] at h
        cases h
        exact ⟨_, _, Action.writes_iff.2 ⟨pieces, hpieces, rfl, rfl⟩, rfl⟩
  · rintro ⟨sql, args, h, rfl⟩
    obtain ⟨pieces, hpieces, rfl, rfl⟩ := Action.writes_iff.1 h
    rw [step_of_expand hlive hpieces, emit_eq_write]

theorem step_opens_eq_ok_iff (hlive : pass.live = true) {condition : Arg} :
    pass.step style data (.opens condition p) = .ok next ↔ ∃ holds,
      condition.StandsFor data (.bool holds) ∧
        next = ⟨pass.query, some holds :: pass.conditions⟩ := by
  simp only [step, hlive, if_true, Outcome.bind_eq_ok, Arg.resolveCondition_eq_ok_iff,
    Arg.resolve_eq_ok_iff, Outcome.pure_eq_ok, Except.ok.injEq, eq_comm (b := next)]

/-- A step of a pass goes where the rules say, and nowhere else. -/
theorem step_eq_ok_iff : pass.step style data s = .ok next ↔ pass.Next style data s next := by
  cases hlive : pass.live with
  | false =>
      constructor
      · intro h
        cases s <;> simp [step, hlive] at h <;> subst h
        · exact .deadText hlive _
        · exact .deadAction hlive _ _
        · exact .deadOpens hlive _ _
        · exact .closes _
      · intro h
        cases h <;> simp_all [step]
  | true =>
      cases s with
      | text t =>
          rw [step_text hlive]
          constructor
          · intro h
            cases h
            exact .text hlive t
          · intro h
            cases h with
            | text => rfl
            | deadText hdead => simp [hlive] at hdead
      | action a p =>
          rw [step_action_eq_ok_iff hlive]
          constructor
          · rintro ⟨sql, args, h, rfl⟩
            exact .action hlive p h
          · intro h
            cases h with
            | action _ _ h => exact ⟨_, _, h, rfl⟩
            | deadAction hdead => simp [hlive] at hdead
      | opens condition p =>
          rw [step_opens_eq_ok_iff hlive]
          constructor
          · rintro ⟨holds, h, rfl⟩
            exact .opens hlive p h
          · intro h
            cases h with
            | opens _ _ h => exact ⟨_, h, rfl⟩
            | deadOpens hdead => simp [hlive] at hdead
      | closes p =>
          constructor
          · intro h
            cases h
            exact .closes p
          · intro h
            cases h
            rfl

end Pass

namespace Query

/-- **Compiling is one pass from left to right.** For a template that has a tree, in every style
and for all data, the query or error is that of the pass over its gaps and directives. The error
is that of the first directive whose arguments are at fault among those that the pass is live at;
and where the pass is not live, a step changes nothing but the open blocks. A step that does not
fail goes on as the rules of the pass say: a live text is written as it is, a live directive writes
its placeholders and binds its arguments, and blocks are opened and closed on top of each other. -/
theorem compile_eq_pass {cleaned : Text} {nodes : List Node} (h : Node.ofText? cleaned = .ok nodes)
    (style : PlaceholderStyle) (data : Data) :
    compile style cleaned data =
        (Pass.run style data .start (Layout.ofText cleaned).steps).map Pass.query ∧
      (∀ e, compile style cleaned data = .error e ↔
        ∃ before step after pass, (Layout.ofText cleaned).steps = before ++ step :: after ∧
          Pass.run style data .start before = .ok pass ∧ pass.live = true ∧
          step.fault? data = some e) ∧
      (∀ (pass : Pass) (step : Step), pass.live = false →
        ∃ conditions, pass.step style data step = .ok ⟨pass.query, conditions⟩) ∧
      ∀ (pass next : Pass) (step : Step),
        pass.step style data step = .ok next ↔ pass.Next style data step next :=
  ⟨compile_eq_map_run h style data, compile_eq_error_iff h style data,
    fun _ step hp => Pass.exists_step_of_not_live style data hp step,
    fun _ _ _ => Pass.step_eq_ok_iff⟩

/-- A block that is kept and has a list in it, one that is skipped, and a condition for each item. -/
private def blockTemplate : Text :=
  "a = b /**- if .A **/ AND c IN /** in .L **//** end **/" ++
    "/** if .B **/ AND d = /** int .C **//** end **/" ++
    " AND (/** multi \"e > ? AND e < ?\" \"or\" .L **/)"

private def blockData : Data := fun name =>
  if name = "A" then some (.bool true) else if name = "B" then some (.bool false)
  else if name = "L" then some (.list [.int 7, .int 8]) else none

/-- The pass in front of the condition for each item: two placeholders have been numbered. -/
private def blockPass : Pass := ⟨⟨"a = b AND c IN ($1, $2) AND (", [.int 7, .int 8]⟩, []⟩

theorem compile_eq_pass_block : (∃ nodes, Node.ofText? blockTemplate = .ok nodes) ∧
    compile .dollar blockTemplate blockData =
      .ok ⟨"a = b AND c IN ($1, $2) AND (e > $3 AND e < $4 or e > $5 AND e < $6)",
        [.int 7, .int 8, .int 7, .int 7, .int 8, .int 8]⟩ ∧
    blockPass.Next .dollar blockData
      (.action (.multi (.quoted "e > ? AND e < ?") (.quoted "or") (.field "L")) ⟨107, 1, 108⟩)
      (blockPass.write "e > $3 AND e < $4 or e > $5 AND e < $6"
        [.int 7, .int 7, .int 8, .int 8]) := by
  have htree : ∃ nodes, Node.ofText? blockTemplate = .ok nodes :=
    Outcome.exists_ok_of_isSome (by decide +kernel)
  obtain ⟨nodes, hnodes⟩ := htree
  obtain ⟨hcompile, -, -, hnext⟩ := compile_eq_pass hnodes .dollar blockData
  have hsteps : (Layout.ofText blockTemplate).steps =
      [.text "a = b", .opens (.field "A") ⟨6, 1, 7⟩, .text " AND c IN ",
        .action (.inList (.field "L")) ⟨30, 1, 31⟩, .text [], .closes ⟨43, 1, 44⟩, .text [],
        .opens (.field "B") ⟨54, 1, 55⟩, .text " AND d = ",
        .action (.bind .int (.field "C")) ⟨76, 1, 77⟩, .text [], .closes ⟨90, 1, 91⟩,
        .text " AND (",
        .action (.multi (.quoted "e > ? AND e < ?") (.quoted "or") (.field "L")) ⟨107, 1, 108⟩,
        .text ")"] := by decide +kernel
  refine ⟨⟨nodes, hnodes⟩, ?_, (hnext _ _ _).1 rfl⟩
  rw [hcompile, hsteps]
  rfl

end Query

end TwoWaySql

import TwoWaySql.Proofs.Directive.Joining
import TwoWaySql.Proofs.Query.Pass
import TwoWaySql.Proofs.Query.Relocation
import TwoWaySql.Proofs.Query.WellFormed

/-!
# Compiling templates put together

A template in two parts that compile on their own is compiled as a whole to the two queries put
together: no block is open where the parts meet, the gap that lies across is written as its two
halves are, and the pass goes on with what it has written so far. The places of the second part's
comments are others in the whole, but places show in errors alone. The marker of a comment trims
the gap up to the next one, so the comments next to the place where the parts meet must have none
on that side.

## Main definitions

* `Layout.rowFrom` — the steps of a layout, with no regard to the places of its comments.
-/
namespace TwoWaySql

open Outcome (bimap)

/-! ## Steps at other places -/

theorem Span.step?_move (f : Position → Position) (p : Position) (s : Span) :
    s.step? (f p) = (s.step? p).map (Step.move f) := by
  rw [step?, step?, Directive.ofSpan?_move]
  cases Directive.ofSpan? p s with
  | none => rfl
  | some d =>
      simp only [Option.map_some, Directive.step?_move]
      cases d.step? <;> rfl

namespace Pass

variable {style : PlaceholderStyle} {data : Data}

/-- A step at another place does what it did, and fails at the other place. -/
theorem step_move (f : Position → Position) (pass : Pass) (s : Step) :
    pass.step style data (s.move f) = bimap (CompileError.move f) id (pass.step style data s) := by
  cases s with
  | text t => rfl
  | action a p =>
      simp only [Step.move, step, Action.expand_move]
      split
      · exact Outcome.bind_bimap fun _ => rfl
      · rfl
  | opens condition p =>
      simp only [Step.move, step, Arg.resolveCondition_move]
      split
      · exact Outcome.bind_bimap fun _ => rfl
      · rfl
  | closes p => rfl

theorem run_move (f : Position → Position) (pass : Pass) (steps : List Step) :
    run style data pass (steps.map (Step.move f)) =
      bimap (CompileError.move f) id (run style data pass steps) :=
  Outcome.foldlM_bimap (g := id) (step_move f) steps pass

/-- A run that succeeds does so wherever the directives stand. -/
theorem run_move_eq_ok_iff {f : Position → Position} {pass next : Pass} {steps : List Step} :
    run style data pass (steps.map (Step.move f)) = .ok next ↔
      run style data pass steps = .ok next := by
  rw [run_move]
  cases run style data pass steps <;> simp

end Pass

namespace Layout

/-- The row of steps from a gap on, with all comments put at the start. -/
def rowFrom (trims : Bool) (gap : Text) : List Span → List Step
  | [] => [.text (Element.trimmed trims false gap)]
  | s :: spans =>
    .text (Element.trimmed trims s.trimsLeft gap) ::
      ((s.step? .start).toList ++ rowFrom s.trimsRight s.gap spans)

theorem map_move_steps (l : Layout) :
    l.steps.map (Step.move fun _ => .start) = rowFrom false l.lead l.spans := by
  have hspans : ∀ (spans : List Span) (p : Position) (trims : Bool) (gap : Text),
      ((Element.ofSpans p trims gap spans).flatMap Element.flat).map (Step.move fun _ => .start) =
        rowFrom trims gap spans := by
    intro spans
    induction spans with
    | nil => intro p trims gap; rfl
    | cons s spans ih =>
        intro p trims gap
        have hstep := s.step?_move (fun _ => .start) (p.advance gap)
        simp only [Element.ofSpans, List.flatMap_cons, Element.flat, List.map_append, ih, rowFrom,
          hstep]
        cases s.step? (p.advance gap) <;> rfl
  rw [steps_eq_flatMap]
  exact hspans _ _ _ _

/-! ## The layout of both parts -/

theorem map_inside_joinFrom (gap : Text) (spans : List Span) (l : Layout) :
    (joinFrom gap spans l).spans.map Span.inside =
      spans.map Span.inside ++ l.spans.map Span.inside := by
  induction spans generalizing gap with
  | nil => rfl
  | cons s spans ih => simp [joinFrom, ih]

/-- Well-formed templates put together are well-formed. -/
theorem WellFormed.join {l l' : Layout} (h : l.WellFormed) (h' : l'.WellFormed)
    (hclosed : (l.join l').unclosed? = none) : (l.join l').WellFormed := by
  have hinside := map_inside_joinFrom l.lead l.spans l'
  -- no gap plays a part in what a comment holds
  have hspan : ∀ s ∈ (l.join l').spans, ∃ gap,
      Span.mk s.inside gap ∈ l.spans ∨ Span.mk s.inside gap ∈ l'.spans := by
    intro s hs
    have hs' : s.inside ∈ (l.spans ++ l'.spans).map Span.inside := by
      rw [List.map_append, ← hinside]
      exact List.mem_map_of_mem hs
    obtain ⟨s', hmem, heq⟩ := List.mem_map.1 hs'
    rw [← heq]
    exact ⟨s'.gap, List.mem_append.1 hmem⟩
  have hbrackets : ∀ spans : List Span, spans.filterMap Span.bracket? =
      (spans.map Span.inside).filterMap fun inside => Span.bracket? ⟨inside, []⟩ := by
    intro spans
    rw [List.filterMap_map]
    rfl
  refine ⟨hclosed, fun s hs hblank => ?_, fun s hs k hk => ?_, ?_⟩
  · obtain ⟨gap, hmem | hmem⟩ := hspan s hs
    · exact h.filled _ hmem hblank
    · exact h'.filled _ hmem hblank
  · obtain ⟨gap, hmem | hmem⟩ := hspan s hs
    · exact h.arity _ hmem k hk
    · exact h'.arity _ hmem k hk
  · have hbalanced := h.balanced.append h'.balanced
    rw [hbrackets, hbrackets, ← List.filterMap_append, ← hinside, ← hbrackets] at hbalanced
    exact hbalanced

/-- A row starts with its first gap, if the comment behind that one does not trim it. -/
theorem exists_rowFrom_eq_cons {spans : List Span}
    (h : ∀ s ∈ spans.head?, s.trimsLeft = false) :
    ∃ after, ∀ gap, rowFrom false gap spans = .text gap :: after := by
  cases spans with
  | nil => exact ⟨[], fun _ => rfl⟩
  | cons s spans =>
      refine ⟨(s.step? .start).toList ++ rowFrom s.trimsRight s.gap spans, fun gap => ?_⟩
      simp [rowFrom, Element.trimmed, h s rfl]

/-- The row of templates put together is that of the first and then that of the second, with the
last gap of the one and the first of the other in one step. -/
theorem exists_rowFrom_joinFrom {trims : Bool} (gap : Text) {spans : List Span} {l : Layout}
    (hright : (spans.getLast?.map Span.trimsRight).getD trims = false)
    (hleft : ∀ s ∈ l.spans.head?, s.trimsLeft = false) :
    ∃ before t t' after, rowFrom trims gap spans = before ++ [.text t] ∧
      rowFrom false l.lead l.spans = .text t' :: after ∧
      rowFrom trims (joinFrom gap spans l).lead (joinFrom gap spans l).spans =
        before ++ .text (t ++ t') :: after := by
  induction spans generalizing trims gap with
  | nil =>
      obtain ⟨after, hafter⟩ := exists_rowFrom_eq_cons hleft
      obtain rfl : trims = false := by simpa using hright
      exact ⟨[], gap, l.lead, after, rfl, hafter l.lead, hafter (gap ++ l.lead)⟩
  | cons s spans ih =>
      have hright' : (spans.getLast?.map Span.trimsRight).getD s.trimsRight = false := by
        simpa [List.getLast?_cons, Option.getD_map] using hright
      obtain ⟨before, t, t', after, hrow, hrow', hjoined⟩ := ih s.gap hright'
      refine ⟨.text (Element.trimmed trims s.trimsLeft gap) ::
        ((s.step? .start).toList ++ before), t, t', after, ?_, hrow', ?_⟩
      · simp [rowFrom, hrow]
      · change Step.text (Element.trimmed trims s.trimsLeft gap) :: ((s.step? .start).toList ++
          rowFrom s.trimsRight (joinFrom s.gap spans l).lead (joinFrom s.gap spans l).spans) = _
        simp [hjoined]

end Layout

/-! ## The pass over both parts -/

namespace Pass

variable {style : PlaceholderStyle} {data : Data} {pass mid next : Pass} {before after : List Step}
  {t t' : Text}

/-- A text is written in one step or in two. -/
theorem step_text_append : pass.step style data (.text (t ++ t')) =
    pass.step style data (.text t) >>= fun mid => mid.step style data (.text t') := by
  cases hlive : pass.live with
  | false => simp [step, hlive]
  | true =>
      have hlive' : live { pass with query := pass.query.push style (.text t) } = true := hlive
      simp only [step, hlive, if_true, Outcome.ok_bind, hlive']
      simp [Query.push]

/-- A pass over two rows goes over the row in which the last text of the one and the first of the
other are one. -/
theorem run_of_halves (h : run style data pass (before ++ [.text t]) = .ok mid)
    (h' : run style data mid (.text t' :: after) = .ok next) :
    run style data pass (before ++ .text (t ++ t') :: after) = .ok next := by
  rw [run_append] at h ⊢
  obtain ⟨first, hbefore, hlast⟩ := Outcome.bind_eq_ok.1 h
  obtain ⟨mid', htext, hdone⟩ := Outcome.bind_eq_ok.1 (run_cons .. ▸ hlast)
  obtain rfl : mid' = mid := Except.ok.inj hdone
  rw [run_cons] at h'
  rw [hbefore, Outcome.ok_bind, run_cons, step_text_append, htext, Outcome.ok_bind, h']

/-- A pass over two layouts goes over the two put together. The comments stand elsewhere then,
which makes no difference to a pass that succeeds. -/
theorem run_join {l l' : Layout}
    (hright : (l.spans.getLast?.map Span.trimsRight).getD false = false)
    (hleft : ∀ s ∈ l'.spans.head?, s.trimsLeft = false)
    (h : run style data pass l.steps = .ok mid) (h' : run style data mid l'.steps = .ok next) :
    run style data pass (l.join l').steps = .ok next := by
  rw [← run_move_eq_ok_iff (f := fun _ => .start), Layout.map_move_steps] at h h' ⊢
  obtain ⟨before, t, t', after, hrow, hrow', hjoined⟩ :=
    Layout.exists_rowFrom_joinFrom l.lead hright hleft
  rw [hrow] at h
  rw [hrow'] at h'
  rw [Layout.join, hjoined]
  exact run_of_halves h h'

end Pass

/-- Question marks have no numbers. -/
theorem Piece.sql_question (n m : Nat) (pieces : List Piece) :
    sql .question n pieces = sql .question m pieces := by
  induction pieces generalizing n m with
  | nil => rfl
  | cons piece pieces ih =>
      cases piece with
      | text t => exact congrArg (t ++ ·) (ih n m)
      | bound v => exact congrArg (_ ++ ·) (ih (n + 1) (m + 1))

/-- A directive has the trim markers of its comment. -/
theorem Directive.trims_of_ofSpan? {p : Position} {s : Span} {d : Directive}
    (h : ofSpan? p s = some d) : d.trimsLeft = s.trimsLeft ∧ d.trimsRight = s.trimsRight := by
  rw [ofSpan?] at h
  split at h <;> cases h
  exact ⟨rfl, rfl⟩

/-- Where every comment holds a directive, what is read off the comments is read off the
directives. -/
theorem Directive.map_all {β : Type} {source : Text} {g : Directive → β} {g' : Span → β}
    (hg : ∀ p s d, ofSpan? p s = some d → g d = g' s)
    (h : ∀ s ∈ (Layout.ofText source).spans, ¬ s.IsBlank) :
    (all source).map g = (Layout.ofText source).spans.map g' := by
  have hall : ∀ c ∈ (Layout.ofText source).located,
      (ofSpan? c.1 c.2).map g = some (g' c.2) := by
    intro c hc
    have hmem : c.2 ∈ (Layout.ofText source).spans := by
      rw [← Layout.map_located]
      exact List.mem_map_of_mem hc
    cases hd : ofSpan? c.1 c.2 with
    | none => exact absurd (ofSpan?_eq_none_iff.1 hd) (h _ hmem)
    | some d => exact congrArg some (hg _ _ _ hd)
  rw [all, List.map_filterMap, List.filterMap_congr hall, ← Layout.map_located, List.map_map]
  exact congrFun List.filterMap_eq_map' _

namespace Layout.WellFormed

variable {source : Text} (h : (Layout.ofText source).WellFormed)
include h

/-- If the first directive does not trim the gap before it, the first comment does not. -/
theorem trimsLeft_head? (hleft : ∀ d ∈ (Directive.all source).head?, d.trimsLeft = false) :
    ∀ s ∈ (Layout.ofText source).spans.head?, s.trimsLeft = false := by
  intro s hs
  have hmap := Directive.map_all (fun _ _ _ hd => (Directive.trims_of_ofSpan? hd).1) h.filled
  have hhead := congrArg List.head? hmap
  rw [List.head?_map, List.head?_map, hs, Option.map_some] at hhead
  obtain ⟨d, hd, heq⟩ := Option.map_eq_some_iff.1 hhead
  rw [← heq, hleft d hd]

/-- If the last directive does not trim the gap behind it, the last comment does not. -/
theorem trimsRight_getLast? (hright : ∀ d ∈ (Directive.all source).getLast?, d.trimsRight = false) :
    ((Layout.ofText source).spans.getLast?.map Span.trimsRight).getD false = false := by
  have hmap := Directive.map_all (fun _ _ _ hd => (Directive.trims_of_ofSpan? hd).2) h.filled
  rw [← List.getLast?_map, ← hmap, List.getLast?_map]
  cases hlast : (Directive.all source).getLast? with
  | none => rfl
  | some d => exact hright d hlast

end Layout.WellFormed

namespace Query

variable {style : PlaceholderStyle} {data : Data} {a b cleaned : Text} {q q' : Query}

theorem wellFormed_of_compile (h : compile style cleaned data = .ok q) :
    (Layout.ofText cleaned).WellFormed := by
  obtain ⟨nodes, hnodes, -⟩ := Outcome.bind_eq_ok.1 h
  exact Node.exists_ofText?_iff.1 ⟨nodes, hnodes⟩

/-- What a template is compiled to is what any pass that is live writes for it. -/
theorem run_of_compile (h : compile style cleaned data = .ok q) :
    ∃ pieces, q = ofPieces style pieces ∧ ∀ pass : Pass, pass.live = true →
      Pass.run style data pass (Layout.ofText cleaned).steps = .ok (pass.emit style pieces) := by
  obtain ⟨nodes, hnodes, hrest⟩ := Outcome.bind_eq_ok.1 h
  obtain ⟨pieces, hpieces, hq⟩ := Outcome.bind_eq_ok.1 hrest
  refine ⟨pieces, (Except.ok.inj hq).symm, fun pass hlive => ?_⟩
  rw [Pass.run_of_live style data (Node.spells_of_ofText? hnodes) hlive, hpieces]
  rfl

/-- In every style, the query of two parts is that of the first with the pieces of the second
pushed to it. -/
theorem exists_compile_append (hjuncture : ¬ Text.Straddles opener a b)
    (hright : ∀ d ∈ (Directive.all a).getLast?, d.trimsRight = false)
    (hleft : ∀ d ∈ (Directive.all b).head?, d.trimsLeft = false)
    (ha : compile style a data = .ok q) (hb : compile style b data = .ok q') :
    ∃ pieces, q' = ofPieces style pieces ∧
      compile style (a ++ b) data = .ok (pieces.foldl (push style) q) := by
  have hwell := wellFormed_of_compile ha
  have hwell' := wellFormed_of_compile hb
  obtain ⟨hlayout, hclosed⟩ := Layout.ofText_join hwell.closed hwell'.closed hjuncture
  obtain ⟨nodes, hnodes⟩ : ∃ nodes, Node.ofText? (a ++ b) = .ok nodes := by
    rw [Node.exists_ofText?_iff, hlayout]
    exact hwell.join hwell' (hlayout ▸ hclosed)
  obtain ⟨pieces, hq, hrun⟩ := run_of_compile ha
  obtain ⟨pieces', hq', hrun'⟩ := run_of_compile hb
  -- the pass over the first part is live at its end, as no block is open there
  have hwhole := Pass.run_join (hwell.trimsRight_getLast? hright) (hwell'.trimsLeft_head? hleft)
    (hrun .start rfl) (hrun' (Pass.start.emit style pieces) rfl)
  refine ⟨pieces', hq', ?_⟩
  rw [compile_eq_map_run hnodes, hlayout, hwhole, Outcome.map_ok, hq, ofPieces_eq_foldl]
  rfl

/-- **Compiling templates put together.** If two templates compile, so does the one behind the
other, and its query is theirs put together: no opener stands across the place where they meet,
and the comments next to it do not trim the gap that lies across. A template that compiles leaves
no opener to be closed. -/
theorem compile_append (hjuncture : ¬ Text.Straddles opener a b)
    (hright : ∀ d ∈ (Directive.all a).getLast?, d.trimsRight = false)
    (hleft : ∀ d ∈ (Directive.all b).head?, d.trimsLeft = false)
    (ha : compile .question a data = .ok q) (hb : compile .question b data = .ok q') :
    compile .question (a ++ b) data = .ok ⟨q.sql ++ q'.sql, q.args ++ q'.args⟩ := by
  obtain ⟨pieces, rfl, hwhole⟩ := exists_compile_append hjuncture hright hleft ha hb
  rw [hwhole, foldl_push, Piece.sql_question _ 0]
  rfl

/-- A block, and a value behind it. -/
private def frontPart : Text := "a = /** if .A -**/ 1 /**- end **/ AND "

private def backPart : Text := "b = /** int .N **/"

private def partData : Data := fun name =>
  if name = "A" then some (.bool true) else if name = "N" then some (.int 7) else none

theorem compile_append_parts : ∃ q q' : Query,
    q.sql = ("a = 1 AND " : Text) ∧ q'.sql = ("b = ?" : Text) ∧
    compile .question frontPart partData = .ok q ∧ compile .question backPart partData = .ok q' ∧
    compile .question (frontPart ++ backPart) partData =
      .ok ⟨q.sql ++ q'.sql, q.args ++ q'.args⟩ := by
  have hfront : (compile .question frontPart partData).toOption.map sql = some "a = 1 AND " := by
    decide +kernel
  have hback : (compile .question backPart partData).toOption.map sql = some "b = ?" := by
    decide +kernel
  obtain ⟨q, hq, hsql⟩ := Outcome.exists_ok_of_toOption_map hfront
  obtain ⟨q', hq', hsql'⟩ := Outcome.exists_ok_of_toOption_map hback
  exact ⟨q, q', hsql, hsql', hq, hq',
    compile_append (by decide +kernel) (by decide +kernel) (by decide +kernel) hq hq'⟩

end Query

end TwoWaySql

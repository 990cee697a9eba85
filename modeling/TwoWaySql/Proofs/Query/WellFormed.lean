import Mathlib.Combinatorics.Enumerative.DyckWord
import TwoWaySql.Proofs.Directive.Token
import TwoWaySql.Proofs.Directive.Layout
import TwoWaySql.Proofs.Query.Structure

/-!
# Well-formed templates

Which templates have a tree can be said without building one: every comment is closed and holds a
directive, every directive of the catalog has as many arguments as its signature asks for, and `if`
and `end` are balanced like brackets. In any other template one thing is reported. An opener without
a closer comes before all else, then the first comment that is at fault where it stands, and last
the innermost block that is left open.

Of the tree in the making only the places of the open blocks matter for this. They are those of the
`if`s behind which everything is balanced, and this is kept by every comment that is no fault.

## Main definitions

* `Balanced` — rows of brackets that match.
* `LeavesOpen` — the innermost block that comments leave open.
* `Span.Faulty` — what is wrong with a comment behind others.
* `Layout.WellFormed` — the templates that have a tree.
* `Blocks.next` — the places of the open blocks after one more comment.
-/
namespace TwoWaySql

open DyckStep

/-! ## Brackets -/

/-- Whether brackets match: they make up a Dyck word. -/
def Balanced (brackets : List DyckStep) : Prop := ∃ w : DyckWord, w.toList = brackets

namespace Balanced

variable {u v : List DyckStep}

theorem nil : Balanced [] := ⟨0, rfl⟩

theorem append (hu : Balanced u) (hv : Balanced v) : Balanced (u ++ v) := by
  obtain ⟨w, rfl⟩ := hu
  obtain ⟨w', rfl⟩ := hv
  exact ⟨w + w', rfl⟩

theorem nest (hu : Balanced u) : Balanced (U :: (u ++ [D])) := by
  obtain ⟨w, rfl⟩ := hu
  exact ⟨w.nest, rfl⟩

theorem count_eq (h : Balanced u) : u.count U = u.count D := by
  obtain ⟨w, rfl⟩ := h
  exact w.count_U_eq_count_D

/-- The start of a balanced row has no more closing brackets than opening ones. -/
theorem count_le (h : Balanced (u ++ v)) : u.count D ≤ u.count U := by
  obtain ⟨w, hw⟩ := h
  have hle := w.count_D_le_count_U u.length
  rwa [hw, List.take_left] at hle

/-- In a balanced row, a closing bracket does not follow a row that is balanced itself. -/
theorem not_closing (h : Balanced (u ++ D :: v)) : ¬ Balanced u := by
  intro hu
  have hle := (show Balanced ((u ++ [D]) ++ v) by simpa using h).count_le
  have heq := hu.count_eq
  simp [List.count_append] at hle
  omega

/-- In a balanced row, an opening bracket is not followed by a row that is balanced itself. -/
theorem not_opening (h : Balanced (u ++ U :: v)) : ¬ Balanced v := by
  intro hv
  have hle := h.count_le
  have heq := h.count_eq
  have heq' := hv.count_eq
  simp [List.count_append] at heq
  omega

end Balanced

/-! ## Comments -/

namespace Span

/-- Whether the comment holds no directive. -/
def IsBlank (s : Span) : Prop := ∀ c ∈ s.body, isBlank c = true

/-- The keyword of the directive in the comment, if the catalog has it. -/
def keyword? (s : Span) : Option Keyword := (Token.all s.body).head?.bind Keyword.ofWord?

/-- The number of arguments of the directive in the comment. -/
def argCount (s : Span) : Nat := (Token.all s.body).tail.length

/-- What the directive in the comment is to the blocks of a template. -/
def bracket? (s : Span) : Option DyckStep :=
  match s.keyword? with
  | some .ifBlock => some U
  | some .endBlock => some D
  | _ => none

end Span

namespace Layout

/-- The brackets among comments. -/
def brackets (cs : List (Position × Span)) : List DyckStep := cs.filterMap fun c => c.2.bracket?

@[simp] theorem brackets_nil : brackets [] = [] := rfl

theorem brackets_cons (c : Position × Span) (cs : List (Position × Span)) :
    brackets (c :: cs) = c.2.bracket?.toList ++ brackets cs := by
  simp only [brackets, List.filterMap_cons]
  cases c.2.bracket? <;> rfl

@[simp] theorem brackets_append (cs cs' : List (Position × Span)) :
    brackets (cs ++ cs') = brackets cs ++ brackets cs' :=
  List.filterMap_append

end Layout

open Layout (brackets brackets_cons brackets_nil brackets_append)

/-- Whether the innermost block that comments leave open is opened at a place: behind its `if` all
brackets match. -/
def LeavesOpen (cs : List (Position × Span)) (p : Position) : Prop :=
  ∃ before s after, cs = before ++ (p, s) :: after ∧ s.bracket? = some U ∧
    Balanced (brackets after)

/-- What is wrong with a comment at a place, behind other comments. -/
inductive Span.Faulty (before : List (Position × Span)) (p : Position) (s : Span) :
    CompileError → Prop
  | blank (h : s.IsBlank) : Faulty before p s (.emptyDirective p)
  | arity {k : Keyword} (hk : s.keyword? = some k) (h : s.argCount ≠ k.arity) :
      Faulty before p s (.arity ⟨k, s.argCount, p⟩)
  | unopened (hk : s.keyword? = some .endBlock) (ha : s.argCount = Keyword.endBlock.arity)
      (h : ∀ q, ¬ LeavesOpen before q) : Faulty before p s (.endWithoutIf p)

/-- Whether no comment is at fault behind those before it. -/
def Faultless (cs : List (Position × Span)) : Prop :=
  ∀ before p s after, cs = before ++ (p, s) :: after → ∀ e, ¬ s.Faulty before p e

/-- Whether nothing is wrong with a template as it stands. -/
structure Layout.WellFormed (l : Layout) : Prop where
  /-- Every opener has a closer. -/
  closed : l.unclosed? = none
  /-- Every comment holds a directive. -/
  filled : ∀ s ∈ l.spans, ¬ s.IsBlank
  /-- Every directive of the catalog has as many arguments as its signature asks for. -/
  arity : ∀ s ∈ l.spans, ∀ k, s.keyword? = some k → s.argCount = k.arity
  /-- The brackets match. -/
  balanced : Balanced (l.spans.filterMap Span.bracket?)

/-! ## Open blocks -/

namespace Directive

variable {p : Position} {s : Span} {d : Directive}

theorem ofSpan?_eq_none_iff : ofSpan? p s = none ↔ s.IsBlank := by
  rw [Span.IsBlank, ← Token.all_eq_nil_iff, ofSpan?]
  cases Token.all s.body <;> simp

theorem keyword?_of_ofSpan? (h : ofSpan? p s = some d) :
    d.keyword? = s.keyword? ∧ d.args.length = s.argCount := by
  rw [ofSpan?] at h
  cases ht : Token.all s.body with
  | nil => simp [ht] at h
  | cons name args =>
      simp only [ht, Option.some.injEq] at h
      simp [← h, keyword?, Span.keyword?, Span.argCount, ht]

end Directive

/-- The places of the open blocks, innermost first. -/
def Growth.places (g : Growth) : List Position := g.blocks.map fun (_, p, _) => p

namespace Blocks

/-- The places of the open blocks, innermost first, after one more comment. -/
def next (places : List Position) (c : Position × Span) : Except CompileError (List Position) :=
  match Directive.ofSpan? c.1 c.2 with
  | none => .error (.emptyDirective c.1)
  | some d =>
    match d.keyword? with
    | none => .ok places
    | some k =>
      if d.args.length = k.arity then
        match k, places with
        | .ifBlock, _ => .ok (c.1 :: places)
        | .endBlock, [] => .error (.endWithoutIf c.1)
        | .endBlock, _ :: rest => .ok rest
        | _, _ => .ok places
      else .error (.arity ⟨k, d.args.length, c.1⟩)

variable {places places' : List Position} {p : Position} {s : Span} {e : CompileError}
  {cs before : List (Position × Span)}

/-- What a comment does to the tree in the making shows in the open blocks. -/
theorem map_places_addElement (g : Growth) (p : Position) (s : Span) :
    (g.addElement (.comment p s)).map Growth.places = next g.places (p, s) := by
  simp only [Growth.addElement, Element.step?, next]
  cases hd : Directive.ofSpan? p s with
  | none => rfl
  | some d =>
      obtain rfl := Directive.position_of_ofSpan? hd
      cases hk : d.keyword? with
      | none => simp [Directive.step?, hk]
      | some k =>
          by_cases hlength : d.args.length = k.arity
          · obtain ⟨step, hstep, hkind⟩ := Directive.exists_step?_of_length hk hlength
            obtain ⟨nodes, blocks⟩ := g
            simp only [hk, hstep, hlength, if_true, Outcome.ok_bind]
            cases k with
            | ifBlock =>
                obtain ⟨condition, rfl⟩ := hkind
                rfl
            | endBlock =>
                obtain rfl := hkind
                cases blocks <;> rfl
            | _ =>
                obtain ⟨a, rfl⟩ := hkind
                rfl
          · simp [Directive.step?_of_length_ne hk hlength, hk, hlength]

/-- A comment is refused if it is blank, if its directive has a wrong number of arguments, or if it
is an `end` and no block is open. -/
theorem next_eq_error_iff : next places (p, s) = .error e ↔
    s.IsBlank ∧ e = .emptyDirective p ∨
      (∃ k, s.keyword? = some k ∧ s.argCount ≠ k.arity ∧ e = .arity ⟨k, s.argCount, p⟩) ∨
      s.keyword? = some .endBlock ∧ s.argCount = Keyword.endBlock.arity ∧ places = [] ∧
        e = .endWithoutIf p := by
  rw [next]
  cases hd : Directive.ofSpan? p s with
  | none =>
      have hblank := Directive.ofSpan?_eq_none_iff.1 hd
      have hkeyword : s.keyword? = none := by
        rw [Span.keyword?, Token.all_eq_nil_iff.2 hblank]
        rfl
      simp [hblank, hkeyword, eq_comm]
  | some d =>
      have hblank : ¬ s.IsBlank := by
        rw [← Directive.ofSpan?_eq_none_iff (p := p), hd]
        simp
      obtain ⟨hkeyword, hcount⟩ := Directive.keyword?_of_ofSpan? hd
      rw [← hkeyword, ← hcount]
      cases hk : d.keyword? with
      | none => simp [hblank, hk]
      | some k =>
          by_cases hlength : d.args.length = k.arity
          · cases k with
            | endBlock => cases places <;> simp [hblank, hk, hlength, eq_comm]
            | _ => simp [hblank, hk, hlength]
          · have hend : ¬ (k = .endBlock ∧ d.args.length = Keyword.endBlock.arity) := by
              rintro ⟨rfl, h⟩
              exact hlength h
            simp [hblank, hk, hlength, eq_comm]
            tauto

/-- What an accepted comment does to the open blocks is decided by its bracket. -/
theorem bracket?_of_next (h : next places (p, s) = .ok places') :
    s.bracket? = none ∧ places' = places ∨ s.bracket? = some U ∧ places' = p :: places ∨
      s.bracket? = some D ∧ ∃ q, places = q :: places' := by
  rw [next] at h
  cases hd : Directive.ofSpan? p s with
  | none => simp [hd] at h
  | some d =>
      obtain ⟨hkeyword, -⟩ := Directive.keyword?_of_ofSpan? hd
      rw [Span.bracket?, ← hkeyword]
      cases hk : d.keyword? with
      | none =>
          simp only [hd, hk, Except.ok.injEq] at h
          exact .inl ⟨rfl, h.symm⟩
      | some k =>
          by_cases hlength : d.args.length = k.arity
          · simp only [hd, hk, hlength, if_true] at h
            cases k with
            | endBlock =>
                cases places with
                | nil => cases h
                | cons q rest => exact .inr (.inr ⟨rfl, q, by rw [Except.ok.inj h]⟩)
            | ifBlock => exact .inr (.inl ⟨rfl, (Except.ok.inj h).symm⟩)
            | _ => exact .inl ⟨rfl, (Except.ok.inj h).symm⟩
          · simp [hd, hk, hlength] at h

/-! ## The blocks that comments leave open -/

/-- Whether the blocks that comments leave open, innermost first, are opened at places. Behind the
`if` of each, up to that of the next one or the end, all brackets match. -/
inductive Leaves : List (Position × Span) → List Position → Prop
  | nothing {cs : List (Position × Span)} (h : Balanced (brackets cs)) : Leaves cs []
  | block {before after : List (Position × Span)} {places : List Position} {p : Position}
      {s : Span} (h : Leaves before places) (hs : s.bracket? = some U)
      (ha : Balanced (brackets after)) : Leaves (before ++ (p, s) :: after) (p :: places)

theorem Leaves.append (h : Leaves cs places) {more : List (Position × Span)}
    (hm : Balanced (brackets more)) : Leaves (cs ++ more) places := by
  cases h with
  | nothing h => exact .nothing (by simpa using h.append hm)
  | block h hs ha =>
      rw [List.append_assoc, List.cons_append]
      exact .block h hs (by simpa using ha.append hm)

/-- The open blocks are kept track of by every comment that is accepted. -/
theorem Leaves.of_next (h : Leaves cs places) (hn : next places (p, s) = .ok places') :
    Leaves (cs ++ [(p, s)]) places' := by
  rcases bracket?_of_next hn with ⟨hs, rfl⟩ | ⟨hs, rfl⟩ | ⟨hs, q, rfl⟩
  · exact h.append (by simpa [brackets_cons, hs] using Balanced.nil)
  · exact .block h hs .nil
  · -- the innermost block is closed, and is balanced as a whole from now on
    cases h with
    | @block before after _ _ s' h hs' ha =>
        have hblock : Balanced (brackets ((q, s') :: (after ++ [(p, s)]))) := by
          simpa [brackets_cons, hs, hs'] using ha.nest
        simpa using h.append hblock

theorem Leaves.of_foldlM (h : Leaves before places) (hn : cs.foldlM next places = .ok places') :
    Leaves (before ++ cs) places' := by
  induction cs generalizing before places with
  | nil =>
      cases hn
      simpa using h
  | cons c cs ih =>
      rw [List.foldlM_cons] at hn
      obtain ⟨places₁, hc, hcs⟩ := Outcome.bind_eq_ok.1 hn
      rw [List.append_cons]
      exact ih (h.of_next hc) hcs

theorem leaves_of_foldlM (h : cs.foldlM next [] = .ok places) : Leaves cs places :=
  (Leaves.nothing (show Balanced (brackets []) from .nil)).of_foldlM h

/-- Comments leave no block open exactly if their brackets match. -/
theorem Leaves.balanced_iff (h : Leaves cs places) : Balanced (brackets cs) ↔ places = [] := by
  cases h with
  | nothing h => simpa using h
  | block h hs ha =>
      rw [brackets_append, brackets_cons, hs]
      exact iff_of_false (fun hall => hall.not_opening ha) (List.cons_ne_nil _ _)

/-- The innermost open block is the only one behind whose `if` all brackets match. -/
theorem Leaves.leavesOpen_iff (h : Leaves cs places) {q : Position} :
    LeavesOpen cs q ↔ places.head? = some q := by
  have hlater : ∀ {x after : List (Position × Span)} {q : Position} {s : Span},
      s.bracket? = some U → Balanced (brackets after) →
        ¬ Balanced (brackets (x ++ (q, s) :: after)) := by
    intro x after q s hs ha hx
    rw [brackets_append, brackets_cons, hs] at hx
    exact hx.not_opening ha
  constructor
  · rintro ⟨before', s', after', hcs, hs', ha'⟩
    cases h with
    | nothing h => exact absurd (hcs ▸ h) (hlater hs' ha')
    | @block before after places p s h hs ha =>
        rcases List.append_eq_append_iff.1 hcs with ⟨x, rfl, hx⟩ | ⟨x, rfl, hx⟩
        · cases x with
          | nil =>
              cases hx
              rfl
          | cons c x =>
              rw [(List.cons.inj hx).2] at ha
              exact absurd ha (hlater hs' ha')
        · cases x with
          | nil =>
              cases hx
              rfl
          | cons c x =>
              rw [(List.cons.inj hx).2] at ha'
              exact absurd ha' (hlater hs ha)
  · intro hq
    cases h with
    | nothing h => cases hq
    | block h hs ha =>
        cases hq
        exact ⟨_, _, _, rfl, hs, ha⟩

/-- The comments that are refused are those at fault. -/
theorem Leaves.eq_error_iff (h : Leaves before places) :
    next places (p, s) = .error e ↔ s.Faulty before p e := by
  rw [next_eq_error_iff]
  constructor
  · rintro (⟨hblank, rfl⟩ | ⟨k, hk, hcount, rfl⟩ | ⟨hk, hcount, rfl, rfl⟩)
    · exact .blank hblank
    · exact .arity hk hcount
    · exact .unopened hk hcount fun q hq => by cases h.leavesOpen_iff.1 hq
  · rintro (hblank | ⟨hk, hcount⟩ | ⟨hk, hcount, hopen⟩)
    · exact .inl ⟨hblank, rfl⟩
    · exact .inr (.inl ⟨_, hk, hcount, rfl⟩)
    · cases places with
      | nil => exact .inr (.inr ⟨hk, hcount, rfl, rfl⟩)
      | cons q rest => exact absurd (h.leavesOpen_iff.2 rfl) (hopen q)

/-- All comments are accepted exactly if none is at fault. -/
theorem exists_foldlM_iff : (∃ places, cs.foldlM next [] = .ok places) ↔ Faultless cs := by
  constructor
  · rintro ⟨places, hrun⟩ before p s after rfl e hfault
    rw [List.foldlM_append] at hrun
    obtain ⟨places₁, hbefore, hrest⟩ := Outcome.bind_eq_ok.1 hrun
    rw [List.foldlM_cons, (leaves_of_foldlM hbefore).eq_error_iff.2 hfault] at hrest
    cases hrest
  · intro h
    cases hrun : cs.foldlM next [] with
    | ok places => exact ⟨places, rfl⟩
    | error e =>
        obtain ⟨before, ⟨p, s⟩, after, places, rfl, hbefore, hs⟩ := Outcome.foldlM_eq_error.1 hrun
        exact absurd ((leaves_of_foldlM hbefore).eq_error_iff.1 hs) (h before p s after rfl e)

/-- What is reported is the first fault. -/
theorem foldlM_eq_error_iff : cs.foldlM next [] = .error e ↔
    ∃ before p s after, cs = before ++ (p, s) :: after ∧ Faultless before ∧
      s.Faulty before p e := by
  rw [Outcome.foldlM_eq_error]
  constructor
  · rintro ⟨before, ⟨p, s⟩, after, places, rfl, hbefore, hs⟩
    have hfault := (leaves_of_foldlM hbefore).eq_error_iff.1 hs
    exact ⟨before, p, s, after, rfl, exists_foldlM_iff.1 ⟨places, hbefore⟩, hfault⟩
  · rintro ⟨before, p, s, after, rfl, hbefore, hfault⟩
    obtain ⟨places, hrun⟩ := exists_foldlM_iff.2 hbefore
    exact ⟨before, (p, s), after, places, rfl, hrun,
      (leaves_of_foldlM hrun).eq_error_iff.2 hfault⟩

/-! ## The tree -/

/-- Text leaves the open blocks as they are. -/
theorem exists_addElement_text (g : Growth) (t : Text) :
    ∃ g', g.addElement (.text t) = .ok g' ∧ g'.places = g.places := by
  cases t with
  | nil => exact ⟨g, rfl, rfl⟩
  | cons c t => exact ⟨_, rfl, rfl⟩

/-- Building the tree goes through the comments as keeping track of the open blocks does. -/
theorem map_places_foldlM (g : Growth) (p : Position) (trims : Bool) (gap : Text)
    (spans : List Span) :
    ((Element.ofSpans p trims gap spans).foldlM Growth.addElement g).map Growth.places =
      (Layout.locate (p.advance gap) spans).foldlM next g.places := by
  induction spans generalizing g p trims gap with
  | nil =>
      obtain ⟨g', hg', hplaces⟩ := exists_addElement_text g (Element.trimmed trims false gap)
      rw [Element.ofSpans, List.foldlM_cons, hg', ← hplaces]
      rfl
  | cons s rest ih =>
      obtain ⟨g', hg', hplaces⟩ := exists_addElement_text g (Element.trimmed trims s.trimsLeft gap)
      rw [Element.ofSpans, List.foldlM_cons, hg', Outcome.ok_bind, List.foldlM_cons, Layout.locate,
        List.foldlM_cons, ← hplaces, ← map_places_addElement]
      cases g'.addElement (.comment (p.advance gap) s) with
      | error e => rfl
      | ok g'' =>
          simp only [Outcome.map_ok, Outcome.ok_bind]
          rw [ih, Span.text, Position.advance_append]

/-- A template whose comments are all closed has a tree exactly if its comments are accepted and
leave no block open. -/
theorem ofText?_eq {source : Text} (h : (Layout.ofText source).unclosed? = none) :
    (Node.ofText? source).map (fun _ => ()) =
      ((Layout.ofText source).located.foldlM next [] >>= fun places =>
        match places with
        | [] => .ok ()
        | p :: _ => .error (.ifWithoutEnd p)) := by
  have hrun := map_places_foldlM .empty .start false (Layout.ofText source).lead
    (Layout.ofText source).spans
  rw [Layout.located, Position.after]
  simp only [Node.ofText?, h, Element.ofLayout]
  change _ = ((Layout.locate _ _).foldlM next Growth.empty.places >>= _)
  rw [← hrun]
  cases (Element.ofSpans _ _ _ _).foldlM Growth.addElement Growth.empty with
  | error e => rfl
  | ok g =>
      obtain ⟨nodes, blocks⟩ := g
      cases blocks <;> rfl

end Blocks

namespace Layout

theorem brackets_located (l : Layout) :
    brackets l.located = l.spans.filterMap Span.bracket? := by
  conv_rhs => rw [← map_located l, List.filterMap_map]
  rfl

/-- Nothing is wrong with a template whose comments are all closed, accepted one after another, and
leave no block open. -/
theorem wellFormed_iff {l : Layout} :
    l.WellFormed ↔ l.unclosed? = none ∧ l.located.foldlM Blocks.next [] = .ok [] := by
  constructor
  · intro h
    refine ⟨h.closed, ?_⟩
    have hbalanced := h.balanced
    rw [← brackets_located] at hbalanced
    have hspan : ∀ {before p s after}, l.located = before ++ (p, s) :: after → s ∈ l.spans := by
      intro before p s after hl
      rw [← map_located, hl]
      simp
    cases hrun : l.located.foldlM Blocks.next [] with
    | error e =>
        obtain ⟨before, ⟨p, s⟩, after, places, hl, hbefore, hs⟩ := Outcome.foldlM_eq_error.1 hrun
        rcases Blocks.next_eq_error_iff.1 hs with ⟨hblank, -⟩ | ⟨k, hk, hcount, -⟩ | ⟨hk, -, rfl, -⟩
        · exact absurd hblank (h.filled s (hspan hl))
        · exact absurd (h.arity s (hspan hl) k hk) hcount
        · rw [hl, brackets_append, brackets_cons, Span.bracket?, hk] at hbalanced
          have hopen := (Blocks.leaves_of_foldlM hbefore).balanced_iff.2 rfl
          exact absurd hopen hbalanced.not_closing
    | ok places => rw [(Blocks.leaves_of_foldlM hrun).balanced_iff.1 hbalanced]
  · rintro ⟨hclosed, hrun⟩
    have hfaultless := Blocks.exists_foldlM_iff.1 ⟨_, hrun⟩
    have hsplit : ∀ s ∈ l.spans, ∃ before p after, l.located = before ++ (p, s) :: after := by
      intro s hs
      rw [← map_located] at hs
      obtain ⟨⟨p, s⟩, hmem, rfl⟩ := List.mem_map.1 hs
      obtain ⟨before, after, hl⟩ := List.append_of_mem hmem
      exact ⟨before, p, after, hl⟩
    refine ⟨hclosed, ?_, ?_, ?_⟩
    · intro s hs hblank
      obtain ⟨before, p, after, hl⟩ := hsplit s hs
      exact hfaultless before p s after hl _ (.blank hblank)
    · intro s hs k hk
      by_contra hcount
      obtain ⟨before, p, after, hl⟩ := hsplit s hs
      exact hfaultless before p s after hl _ (.arity hk hcount)
    · rw [← brackets_located]
      exact (Blocks.leaves_of_foldlM hrun).balanced_iff.2 rfl

end Layout

namespace Node

variable {source : Text}

/-- Exactly the well-formed templates have a tree. -/
theorem exists_ofText?_iff :
    (∃ nodes, ofText? source = .ok nodes) ↔ (Layout.ofText source).WellFormed := by
  rw [Layout.wellFormed_iff]
  cases hclosed : (Layout.ofText source).unclosed? with
  | some p => simp [ofText?, hclosed]
  | none =>
      have hmap := Blocks.ofText?_eq hclosed
      constructor
      · rintro ⟨nodes, hnodes⟩
        rw [hnodes, Outcome.map_ok, eq_comm] at hmap
        obtain ⟨places, hrun, hplaces⟩ := Outcome.bind_eq_ok.1 hmap
        cases places with
        | nil => exact ⟨rfl, hrun⟩
        | cons p places => cases hplaces
      · rintro ⟨-, hrun⟩
        rw [hrun] at hmap
        cases hnodes : ofText? source with
        | ok nodes => exact ⟨nodes, rfl⟩
        | error e =>
            rw [hnodes] at hmap
            cases hmap

/-- What is reported of a template whose comments are all closed: the first comment at fault, or
else the innermost block that is left open. -/
theorem ofText?_eq_error_iff (h : (Layout.ofText source).unclosed? = none) {e : CompileError} :
    ofText? source = .error e ↔
      (∃ before p s after, (Layout.ofText source).located = before ++ (p, s) :: after ∧
        Faultless before ∧ s.Faulty before p e) ∨
      Faultless (Layout.ofText source).located ∧
        ∃ p, LeavesOpen (Layout.ofText source).located p ∧ e = .ifWithoutEnd p := by
  rw [← Outcome.map_eq_error (f := fun _ => ()), Blocks.ofText?_eq h, Outcome.bind_eq_error,
    Blocks.foldlM_eq_error_iff, ← Blocks.exists_foldlM_iff]
  refine or_congr_right ⟨?_, ?_⟩
  · rintro ⟨places, hrun, hfinish⟩
    cases places with
    | nil => cases hfinish
    | cons p places =>
        cases hfinish
        exact ⟨⟨_, hrun⟩, p, (Blocks.leaves_of_foldlM hrun).leavesOpen_iff.2 rfl, rfl⟩
  · rintro ⟨⟨places, hrun⟩, p, hopen, rfl⟩
    have hhead := (Blocks.leaves_of_foldlM hrun).leavesOpen_iff.1 hopen
    obtain ⟨rest, rfl⟩ := List.head?_eq_some_iff.1 hhead
    exact ⟨_, hrun, rfl⟩

/-- Exactly the well-formed templates have a tree, and of any other template one thing is reported:
an opener without a closer, else the first comment at fault, else the innermost block left open. -/
theorem ofText?_iff_wellFormed (source : Text) :
    ((∃ nodes, ofText? source = .ok nodes) ↔ (Layout.ofText source).WellFormed) ∧
      ∀ e, ofText? source = .error e ↔
        (∃ p, (Layout.ofText source).unclosed? = some p ∧ e = .neverClosed p) ∨
        (Layout.ofText source).unclosed? = none ∧
          ((∃ before p s after, (Layout.ofText source).located = before ++ (p, s) :: after ∧
            Faultless before ∧ s.Faulty before p e) ∨
          Faultless (Layout.ofText source).located ∧
            ∃ p, LeavesOpen (Layout.ofText source).located p ∧ e = .ifWithoutEnd p) := by
  refine ⟨exists_ofText?_iff, fun e => ?_⟩
  cases hclosed : (Layout.ofText source).unclosed? with
  | some p => simp [ofText?, hclosed, eq_comm]
  | none => simp [ofText?_eq_error_iff hclosed]

end Node

end TwoWaySql

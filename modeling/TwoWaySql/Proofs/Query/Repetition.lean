import TwoWaySql.Proofs.Query.Pass
import TwoWaySql.Proofs.Text.Blank
import TwoWaySql.Proofs.Text.Pieces

/-!
# Lists in queries

A directive that is given a list writes something for each item. One binds the items side by side;
the other writes a piece of SQL once for each item, and binds the item at each question mark in it.
Both go on with the numbers where the arguments before them stop, so that what they write is known
from how many arguments there are: copy `i` of a piece with `k` question marks starts at the number
`i * k` further on. Between two copies stands the separator, with its blanks put in order.

## Main definitions

* `PlaceholderStyle.fill` — a piece of SQL with numbered placeholders for its question marks.
* `PlaceholderStyle.tuple`, `PlaceholderStyle.repeated` — what is written for a list.
* `Query.Reaches` — the directives that a compilation comes to.
-/
namespace TwoWaySql

/-! ## Separators -/

section Separators

variable {s : Text}

theorem joiner_of_blank (h : ∀ c ∈ s, isBlank c = true) : joiner s = [' '] := by
  have htrim : s.trim = [] := Text.trim_eq_nil_iff.2 h
  simp [joiner, htrim]

theorem isBlank_of_isAlphanumeric {c : Char} (h : isAlphanumeric c = true) : isBlank c = false := by
  cases hblank : isBlank c with
  | false => rfl
  | true =>
      rw [isAlphanumeric_of_isBlank hblank] at h
      cases h

theorem mem_trim_of_isAlphanumeric {c : Char} (h : isAlphanumeric c = true) (hc : c ∈ s) :
    c ∈ s.trim := Text.mem_trim_of_mem (isBlank_of_isAlphanumeric h) hc

theorem joiner_of_word (h : ∃ c ∈ s, isAlphanumeric c = true) :
    joiner s = [' '] ++ s.trim ++ [' '] := by
  obtain ⟨c, hc, hword⟩ := h
  have hmem := mem_trim_of_isAlphanumeric hword hc
  have hne : s.trim ≠ [] := List.ne_nil_of_mem hmem
  have hany : s.trim.any isAlphanumeric = true := List.any_eq_true.2 ⟨c, hmem, hword⟩
  simp only [joiner, List.isEmpty_iff, hne, hany, if_false, if_true]
  rfl

/-- Whether blanks around a separator are put in order: it is blank, or has a letter or number. -/
def IsSpaced (s : Text) : Prop :=
  (∃ c ∈ s, isAlphanumeric c = true) ∨ ∀ c ∈ s, isBlank c = true

theorem joiner_of_not_isSpaced (h : ¬ IsSpaced s) : joiner s = s := by
  rw [IsSpaced, not_or] at h
  have hne : s.trim ≠ [] := fun htrim => h.2 (Text.trim_eq_nil_iff.1 htrim)
  have hany : s.trim.any isAlphanumeric = false := by
    rw [List.any_eq_false]
    intro c hc hword
    obtain ⟨u, v, hs, -, -⟩ := s.exists_eq_append_trim
    exact h.1 ⟨c, by rw [hs]; simp [hc], hword⟩
  simp [joiner, hne, hany]

theorem blank_of_mem_singleton : ∀ c ∈ [' '], isBlank c = true := by
  intro c hc
  rw [List.mem_singleton.1 hc]
  rfl

theorem exists_word_append_iff {u v : Text} (hu : ∀ c ∈ u, isBlank c = true)
    (hv : ∀ c ∈ v, isBlank c = true) :
    (∃ c ∈ u ++ s ++ v, isAlphanumeric c = true) ↔ ∃ c ∈ s, isAlphanumeric c = true := by
  constructor
  · intro ⟨c, hc, hword⟩
    have hnot : isBlank c ≠ true := by simp [isBlank_of_isAlphanumeric hword]
    simp only [List.mem_append] at hc
    rcases hc with (hc | hc) | hc
    · exact absurd (hu c hc) hnot
    · exact ⟨c, hc, hword⟩
    · exact absurd (hv c hc) hnot
  · intro ⟨c, hc, hword⟩
    exact ⟨c, by simp [hc], hword⟩

theorem forall_blank_append_iff {u v : Text} (hu : ∀ c ∈ u, isBlank c = true)
    (hv : ∀ c ∈ v, isBlank c = true) :
    (∀ c ∈ u ++ s ++ v, isBlank c = true) ↔ ∀ c ∈ s, isBlank c = true := by
  simp only [List.forall_mem_append]
  constructor
  · intro h
    exact h.1.2
  · intro h
    exact ⟨⟨hu, h⟩, hv⟩

theorem isSpaced_append_iff {u v : Text} (hu : ∀ c ∈ u, isBlank c = true)
    (hv : ∀ c ∈ v, isBlank c = true) : IsSpaced (u ++ s ++ v) ↔ IsSpaced s := by
  rw [IsSpaced, IsSpaced, exists_word_append_iff hu hv, forall_blank_append_iff hu hv]

/-- Blanks around a separator make no difference, if it has any to put in order. -/
theorem joiner_append_of_blank {u v : Text} (hu : ∀ c ∈ u, isBlank c = true)
    (hv : ∀ c ∈ v, isBlank c = true) (h : IsSpaced s) : joiner (u ++ s ++ v) = joiner s := by
  rcases h with hword | hblank
  · rw [joiner_of_word hword, joiner_of_word ((exists_word_append_iff hu hv).2 hword),
      Text.trim_append_of_blank hu s hv]
  · rw [joiner_of_blank hblank, joiner_of_blank ((forall_blank_append_iff hu hv).2 hblank)]

theorem joiner_joiner (s : Text) : joiner (joiner s) = joiner s := by
  by_cases h : IsSpaced s
  · rcases h with hword | hblank
    · obtain ⟨c, hc, halphanumeric⟩ := hword
      have hmem : c ∈ [' '] ++ s.trim ++ [' '] := by
        simp [mem_trim_of_isAlphanumeric halphanumeric hc]
      rw [joiner_of_word ⟨c, hc, halphanumeric⟩, joiner_of_word ⟨c, hmem, halphanumeric⟩,
        Text.trim_append_of_blank blank_of_mem_singleton _ blank_of_mem_singleton, Text.trim_trim]
    · rw [joiner_of_blank hblank]
      exact joiner_of_blank blank_of_mem_singleton
  · rw [joiner_of_not_isSpaced h, joiner_of_not_isSpaced h]

end Separators

/-! ## Copies -/

namespace PlaceholderStyle

/-- A piece of SQL with its question marks replaced by placeholders, numbered from `n` on. -/
def fill (style : PlaceholderStyle) (n : Nat) (t : Text) : Text :=
  Text.weave style.placeholder n (Text.splitOn '?' t)

/-- The next `count` placeholders after `n` arguments, in parentheses. -/
def tuple (style : PlaceholderStyle) (n count : Nat) : Text :=
  "(" ++ Text.join ", " ((List.range count).map fun i => style.placeholder (n + i + 1)) ++ ")"

/-- The next `count` copies of a piece of SQL after `n` arguments, with a text between them. -/
def repeated (style : PlaceholderStyle) (n : Nat) (t between : Text) (count : Nat) : Text :=
  Text.join between ((List.range count).map fun i => style.fill (n + i * t.count '?' + 1) t)

/-- The copies behind the first one are numbered from where that one stops. -/
theorem repeated_succ_succ (style : PlaceholderStyle) (n : Nat) (t between : Text) (count : Nat) :
    style.repeated n t between (count + 2) =
      style.fill (n + 1) t ++ between ++
        style.repeated (n + t.count '?') t between (count + 1) := by
  have hshift : ((fun i => style.fill (n + i * t.count '?' + 1) t) ∘ Nat.succ) =
      fun i => style.fill (n + t.count '?' + i * t.count '?' + 1) t := by
    funext i
    rw [Function.comp_apply, Nat.succ_mul, ← Nat.add_assoc, Nat.add_right_comm n]
  rw [repeated, repeated, @List.range_succ_eq_map (count + 1), List.map_cons, List.map_map, hshift,
    @List.range_succ_eq_map count, List.map_cons, Text.join_cons_cons]
  simp

/-- With question marks for placeholders a piece of SQL stays as it is. -/
theorem fill_question (n : Nat) (t : Text) : question.fill n t = t := by
  have hweave : ∀ (ts : List Text) (n : Nat),
      Text.weave question.placeholder n ts = Text.join ['?'] ts := by
    intro ts
    induction ts with
    | nil => intro n; rfl
    | cons t ts ih =>
        intro n
        cases ts with
        | nil => rfl
        | cons u ts =>
            rw [Text.weave_cons (by simp), ih, Text.join_cons_cons]
            rfl
  rw [fill, hweave, Text.join_splitOn]

end PlaceholderStyle

namespace Piece

variable (style : PlaceholderStyle) (n : Nat)

theorem args_append (ps qs : List Piece) : args (ps ++ qs) = args ps ++ args qs := by
  induction ps with
  | nil => rfl
  | cons p ps ih => cases p <;> simp [args, ih]

theorem sql_append (ps qs : List Piece) :
    sql style n (ps ++ qs) = sql style n ps ++ sql style (n + (args ps).length) qs := by
  induction ps generalizing n with
  | nil => rfl
  | cons p ps ih =>
      cases p with
      | text t => simp [sql, args, ih]
      | bound v => simp [sql, args, ih, Nat.add_assoc, Nat.add_comm 1]

/-- A copy of a piece of SQL is cut where it has question marks. -/
theorem chunks_copy (t : Text) (item : Value) : chunks (copy t item) = Text.splitOn '?' t := by
  induction t with
  | nil => rfl
  | cons c t ih =>
      rw [copy] at ih
      by_cases hc : c = '?'
      · simp [copy, chunks, Text.splitOn, hc, ih]
      · rw [copy, List.map_cons, if_neg hc, chunks, ih, Text.splitOn, if_neg hc]
        cases Text.splitOn '?' t <;> rfl

theorem args_copy (t : Text) (item : Value) :
    args (copy t item) = List.replicate (t.count '?') item := by
  induction t with
  | nil => rfl
  | cons c t ih =>
      rw [copy] at ih
      by_cases hc : c = '?'
      · simp [copy, args, hc, ih, List.replicate_succ]
      · simp [copy, args, hc, ih]

theorem sql_copy (t : Text) (item : Value) : sql style n (copy t item) = style.fill (n + 1) t := by
  rw [sql_eq_weave, chunks_copy, PlaceholderStyle.fill]

theorem copies_cons_cons (t between : Text) (item next : Value) (items : List Value) :
    copies t between (item :: next :: items) =
      copy t item ++ text between :: copies t between (next :: items) := rfl

/-- Each item is bound as often as the piece of SQL has question marks, one item after another. -/
theorem args_copies (t between : Text) (items : List Value) :
    args (copies t between items) = items.flatMap (List.replicate (t.count '?')) := by
  induction items with
  | nil => rfl
  | cons item items ih =>
      cases items with
      | nil => simp [copies, args_copy]
      | cons next items =>
          rw [copies_cons_cons, args_append, args_copy, args, ih]
          simp

/-- The copies for items, each numbered from where the one before it stops. -/
theorem sql_copies (t between : Text) (items : List Value) :
    sql style n (copies t between items) = style.repeated n t between items.length := by
  induction items generalizing n with
  | nil => rfl
  | cons item items ih =>
      cases items with
      | nil => simp [copies, sql_copy, PlaceholderStyle.repeated, Text.join]
      | cons next items =>
          have hlength : (args (copy t item)).length = t.count '?' := by simp [args_copy]
          rw [copies_cons_cons, sql_append, hlength, sql, ih, sql_copy]
          simp only [List.length_cons, PlaceholderStyle.repeated_succ_succ, List.append_assoc]

/-- Items bound side by side are copies of a question mark. -/
theorem bindAll_eq_copies (items : List Value) : bindAll items = copies ['?'] ", " items := by
  induction items with
  | nil => rfl
  | cons item items ih =>
      cases items with
      | nil => rfl
      | cons next items =>
          rw [copies_cons_cons, ← ih]
          rfl

theorem args_bindAll (items : List Value) : args (bindAll items) = items := by
  have honce : List.replicate (List.count '?' ['?']) = fun v : Value => [v] := rfl
  rw [bindAll_eq_copies, args_copies, honce, List.flatMap_singleton']

theorem sql_bindAll (items : List Value) : sql style n (bindAll items) =
    Text.join ", " ((List.range items.length).map fun i => style.placeholder (n + i + 1)) := by
  have hfill : ∀ m, style.fill m ['?'] = style.placeholder m := by
    intro m
    simp [PlaceholderStyle.fill, Text.splitOn, Text.weave]
  simp [bindAll_eq_copies, sql_copies, PlaceholderStyle.repeated, hfill]

theorem sql_tuple (items : List Value) :
    sql style n (.text "(" :: bindAll items ++ [.text ")"]) = style.tuple n items.length := by
  simp [sql, sql_append, sql_bindAll, PlaceholderStyle.tuple]

theorem args_tuple (items : List Value) :
    args (.text "(" :: bindAll items ++ [.text ")"]) = items := by
  simp [args, args_append, args_bindAll]

end Piece

namespace Action

variable {data : Data} {p : Position} {items : List Value}

theorem expand_inList {list : Arg} (h : list.resolve data p = .ok (.list items)) :
    (inList list).expand data p = .ok (.text "(" :: Piece.bindAll items ++ [.text ")"]) := by
  simp [expand, Arg.resolveList, h]

theorem expand_multi {subTemplate separator list : Arg} {t s : Text}
    (ht : subTemplate.resolve data p = .ok (.string t))
    (hs : separator.resolve data p = .ok (.string s))
    (hlist : list.resolve data p = .ok (.list items)) :
    (multi subTemplate separator list).expand data p =
      .ok (Piece.copies t (joiner s) items) := by
  simp [expand, Arg.resolveString, Arg.resolveList, ht, hs, hlist]

end Action

/-! ## Lists in a compilation -/

/-- The pass after a text and arguments are added to its query. -/
def Pass.write (pass : Pass) (sql : Text) (args : List Value) : Pass :=
  { pass with query := ⟨pass.query.sql ++ sql, pass.query.args ++ args⟩ }

namespace Pass

variable {style : PlaceholderStyle} {data : Data} {pass : Pass} {p : Position} {items : List Value}

/-- What a pass writes of pieces is numbered from its arguments on. -/
theorem emit_eq_write (pieces : List Piece) : pass.emit style pieces =
    pass.write (Piece.sql style pass.query.args.length pieces) (Piece.args pieces) := by
  rw [emit, Query.foldl_push, write]

theorem step_of_expand {a : Action} {pieces : List Piece} (hlive : pass.live = true)
    (h : a.expand data p = .ok pieces) :
    pass.step style data (.action a p) = .ok (pass.emit style pieces) := by
  simp only [step, hlive, if_true, h]
  rfl

/-- A pass that is live writes a tuple for a list. -/
theorem step_inList {list : Arg} (hlive : pass.live = true)
    (hlist : list.resolve data p = .ok (.list items)) :
    pass.step style data (.action (.inList list) p) =
      .ok (pass.write (style.tuple pass.query.args.length items.length) items) := by
  rw [step_of_expand hlive (Action.expand_inList hlist), emit_eq_write, Piece.sql_tuple,
    Piece.args_tuple]

/-- A pass that is live writes copies for a list. -/
theorem step_multi {subTemplate separator list : Arg} {t s : Text} (hlive : pass.live = true)
    (ht : subTemplate.resolve data p = .ok (.string t))
    (hs : separator.resolve data p = .ok (.string s))
    (hlist : list.resolve data p = .ok (.list items)) :
    pass.step style data (.action (.multi subTemplate separator list) p) =
      .ok (pass.write (style.repeated pass.query.args.length t (joiner s) items.length)
        (items.flatMap (List.replicate (t.count '?')))) := by
  rw [step_of_expand hlive (Action.expand_multi ht hs hlist), emit_eq_write, Piece.sql_copies,
    Piece.args_copies]

end Pass

namespace Query

/-- Whether compiling a template comes to a directive: what stands before it is written in a pass
that is live there, and other steps follow. -/
structure Reaches (style : PlaceholderStyle) (cleaned : Text) (data : Data) (pass : Pass)
    (a : Action) (p : Position) (after : List Step) : Prop where
  /-- The template has a tree. -/
  tree : ∃ nodes, Node.ofText? cleaned = .ok nodes
  /-- The steps before the directive end in the pass. -/
  before : ∃ before, (Layout.ofText cleaned).steps = before ++ .action a p :: after ∧
    Pass.run style data .start before = .ok pass
  /-- No block around the directive has a false condition. -/
  live : pass.live = true

variable {style : PlaceholderStyle} {cleaned : Text} {data : Data} {pass next : Pass} {a : Action}
  {p : Position} {after : List Step}

/-- Compiling goes on from what the directive writes. -/
theorem Reaches.compile_eq (h : Reaches style cleaned data pass a p after)
    (hstep : pass.step style data (.action a p) = .ok next) :
    compile style cleaned data = (Pass.run style data next after).map Pass.query := by
  obtain ⟨nodes, hnodes⟩ := h.tree
  obtain ⟨before, hsteps, hbefore⟩ := h.before
  rw [compile_eq_map_run hnodes, hsteps, Pass.run_append, hbefore, Outcome.ok_bind, Pass.run_cons,
    hstep, Outcome.ok_bind]

/-- **What is written for a list.** Wherever a compilation comes to a directive for a list, with
some arguments bound before, it goes on as follows. The one kind of directive adds the items as
arguments and a tuple of as many placeholders with the next numbers. The other kind adds a copy of
its piece of SQL for each item, the question marks in it numbered on from copy to copy, with the
joiner of the separator between copies, and binds each item once for each question mark; with
question marks for placeholders the copies are the piece itself. Joiners are their own joiners.
Blanks put around a separator that is blank, or has a letter or number, or taken from there, make no
difference, and any other separator is its own joiner. -/
theorem compile_of_list :
    (∀ style cleaned data pass list p after items,
      Reaches style cleaned data pass (.inList list) p after →
      list.resolve data p = .ok (.list items) →
      compile style cleaned data =
        (Pass.run style data
          (pass.write (style.tuple pass.query.args.length items.length) items) after).map
          Pass.query) ∧
    (∀ style cleaned data pass subTemplate separator list p after t s items,
      Reaches style cleaned data pass (.multi subTemplate separator list) p after →
      subTemplate.resolve data p = .ok (.string t) → separator.resolve data p = .ok (.string s) →
      list.resolve data p = .ok (.list items) →
      compile style cleaned data =
        (Pass.run style data
          (pass.write (style.repeated pass.query.args.length t (joiner s) items.length)
            (items.flatMap (List.replicate (t.count '?')))) after).map
          Pass.query) ∧
    (∀ n t, PlaceholderStyle.question.fill n t = t) ∧
    (∀ s, joiner (joiner s) = joiner s) ∧
    (∀ u s v, (∀ c ∈ u, isBlank c = true) → (∀ c ∈ v, isBlank c = true) →
      (IsSpaced (u ++ s ++ v) ↔ IsSpaced s) ∧ (IsSpaced s → joiner (u ++ s ++ v) = joiner s)) ∧
    ∀ s, ¬ IsSpaced s → joiner s = s := by
  refine ⟨?_, ?_, PlaceholderStyle.fill_question, joiner_joiner, ?_, ?_⟩
  · intro style cleaned data pass list p after items hreaches hlist
    exact hreaches.compile_eq (Pass.step_inList hreaches.live hlist)
  · intro style cleaned data pass subTemplate separator list p after t s items hreaches ht hs hlist
    exact hreaches.compile_eq (Pass.step_multi hreaches.live ht hs hlist)
  · intro u s v hu hv
    exact ⟨isSpaced_append_iff hu hv, joiner_append_of_blank hu hv⟩
  · intro s hs
    exact joiner_of_not_isSpaced hs

/-- A number, and a condition that is repeated for a list and has each item twice. -/
private def rangeTemplate : Text := "/** int .N **/ AND /** multi \"a>? OR b>?\" \"or\" .A **/"

private def rangeData : Data := fun name =>
  if name = "A" then some (.list [.int 1, .int 2]) else if name = "N" then some (.int 7) else none

theorem compile_of_list_range : compile .dollar rangeTemplate rangeData =
    .ok ⟨"$1 AND a>$2 OR b>$3 or a>$4 OR b>$5", [.int 7, .int 1, .int 1, .int 2, .int 2]⟩ := by
  have htree : ∃ nodes, Node.ofText? rangeTemplate = .ok nodes :=
    Outcome.exists_ok_of_isSome (by decide +kernel)
  have hsteps : (Layout.ofText rangeTemplate).steps =
      [.text [], .action (.bind .int (.field "N")) ⟨0, 1, 1⟩, .text " AND "] ++
        .action (.multi (.quoted "a>? OR b>?") (.quoted "or") (.field "A")) ⟨19, 1, 20⟩ ::
          [.text []] := by decide +kernel
  have hreaches : Reaches .dollar rangeTemplate rangeData ⟨⟨"$1 AND ", [.int 7]⟩, []⟩
      (.multi (.quoted "a>? OR b>?") (.quoted "or") (.field "A")) ⟨19, 1, 20⟩ [.text []] :=
    ⟨htree, ⟨_, hsteps, rfl⟩, rfl⟩
  have hcompile := compile_of_list.2.1 _ _ _ _ _ _ _ _ _ "a>? OR b>?" "or" [.int 1, .int 2]
    hreaches rfl rfl rfl
  rw [hcompile]
  rfl

end Query

end TwoWaySql

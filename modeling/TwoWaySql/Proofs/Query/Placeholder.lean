import TwoWaySql.Proofs.Outcome
import TwoWaySql.Proofs.Text.Decimal
import TwoWaySql.Query.Basic

/-!
# Placeholders and their arguments

A query is written by emitting pieces one after the other. Emitting a bound value first puts it
behind the arguments and then writes the placeholder whose number is the number of arguments.
Taken over a whole template this leaves a fixed row of text chunks with one placeholder between
neighbours, whatever the style, and where the chunks do not get in the way the numbers of the
placeholders can be read back.

## Main definitions

* `Text.weave` — texts with numbered marks between neighbours.
* `Text.dollarNumbers` — the numbers behind the dollar signs of a text.
* `Piece.chunks` — the texts around the bound values of pieces.
* `Query.push` — the effect of one piece on a query in the making.
-/
namespace TwoWaySql

namespace Text

/-- The texts in order with a mark between neighbours, the first mark being that of `n`. -/
def weave (mark : Nat → Text) (n : Nat) : List Text → Text
  | [] => []
  | [t] => t
  | t :: rest => t ++ mark n ++ weave mark (n + 1) rest

theorem weave_cons {mark : Nat → Text} {n : Nat} {t : Text} {rest : List Text} (h : rest ≠ []) :
    weave mark n (t :: rest) = t ++ mark n ++ weave mark (n + 1) rest := by
  cases rest with
  | nil => exact absurd rfl h
  | cons => rfl

/-- Puts text in front of the first of several texts. -/
def prepend (t : Text) : List Text → List Text
  | [] => [t]
  | u :: rest => (t ++ u) :: rest

@[simp] theorem prepend_ne_nil (t : Text) (ts : List Text) : prepend t ts ≠ [] := by
  cases ts <;> simp [prepend]

theorem length_prepend {t : Text} {ts : List Text} (h : ts ≠ []) :
    (prepend t ts).length = ts.length := by
  cases ts with
  | nil => exact absurd rfl h
  | cons => rfl

theorem weave_prepend (mark : Nat → Text) (n : Nat) (t : Text) (ts : List Text) :
    weave mark n (prepend t ts) = t ++ weave mark n ts := by
  cases ts with
  | nil => simp [prepend, weave]
  | cons u rest => cases rest <;> simp [prepend, weave]

/-- A text without the character of one-character marks has as many of them as marks. -/
theorem count_weave {c : Char} (n : Nat) {ts : List Text} (h : ∀ t ∈ ts, c ∉ t) :
    (weave (fun _ => [c]) n ts).count c = ts.length - 1 := by
  induction ts generalizing n with
  | nil => rfl
  | cons t rest ih =>
      have ht : t.count c = 0 := List.count_eq_zero.2 (h t (by simp))
      by_cases hr : rest = []
      · simp [hr, weave, ht]
      · have hpos : 0 < rest.length := List.length_pos_iff.2 hr
        rw [weave_cons hr, List.count_append, List.count_append, ht,
          ih _ fun u hu => h u (by simp [hu])]
        simp
        omega

/-- Whether a text starts with an ASCII digit. -/
def startsWithDigit (t : Text) : Bool := t.head?.any isAsciiDigit

/-- The numbers in a text that stand behind a dollar sign, each as long as its digits go on. -/
def dollarNumbers : Text → List Nat
  | [] => []
  | c :: rest =>
    let digits := rest.takeWhile isAsciiDigit
    if c = '$' ∧ digits ≠ [] then toNat digits :: dollarNumbers rest else dollarNumbers rest

theorem dollarNumbers_append {s : Text} (h : '$' ∉ s) (t : Text) :
    dollarNumbers (s ++ t) = dollarNumbers t := by
  induction s with
  | nil => rfl
  | cons c rest ih =>
      have hc : c ≠ '$' := fun he => h (by simp [he])
      have hrest : '$' ∉ rest := fun hm => h (by simp [hm])
      simp [dollarNumbers, hc, ih hrest]

/-- The digits of a numeral end where the text behind it has none. -/
theorem takeWhile_ofNat_append (n : Nat) {t : Text} (h : startsWithDigit t = false) :
    (ofNat n ++ t).takeWhile isAsciiDigit = ofNat n := by
  have ht : t.takeWhile isAsciiDigit = [] := by
    cases t with
    | nil => rfl
    | cons c rest =>
        have hc : isAsciiDigit c = false := by simpa [startsWithDigit] using h
        simp [hc]
  rw [List.takeWhile_append_of_pos fun c hc => isAsciiDigit_of_mem_ofNat hc, ht, List.append_nil]

theorem dollarNumbers_dollar (n : Nat) {t : Text} (h : startsWithDigit t = false) :
    dollarNumbers ('$' :: ofNat n ++ t) = n :: dollarNumbers t := by
  have hd : '$' ∉ ofNat n := fun hm => by
    have := isAsciiDigit_of_mem_ofNat hm
    simp [isAsciiDigit] at this
  have hne := ofNat_ne_nil n
  simp only [List.cons_append, dollarNumbers, takeWhile_ofNat_append n h]
  simp [hne, dollarNumbers_append hd]

/-- A text goes on without a digit in front of a dollar sign if it starts without one. -/
theorem startsWithDigit_append_dollar {s : Text} (h : startsWithDigit s = false) (t : Text) :
    startsWithDigit (s ++ '$' :: t) = false := by
  cases s with
  | nil => rfl
  | cons c rest => simpa [startsWithDigit] using h

/-- Numbered marks are read back in order from between texts that neither have dollar signs nor
continue a numeral. -/
theorem dollarNumbers_weave (n : Nat) {t : Text} {ts : List Text} (ht : '$' ∉ t)
    (hts : ∀ u ∈ ts, '$' ∉ u ∧ startsWithDigit u = false) :
    dollarNumbers (weave (fun k => '$' :: ofNat k) n (t :: ts)) = List.range' n ts.length := by
  induction ts generalizing n t with
  | nil => simpa [weave, dollarNumbers] using dollarNumbers_append ht []
  | cons u rest ih =>
      obtain ⟨hu, hd⟩ := hts u (by simp)
      have hrest : startsWithDigit (weave (fun k => '$' :: ofNat k) (n + 1) (u :: rest)) = false := by
        cases rest with
        | nil => exact hd
        | cons v rest =>
            rw [weave_cons (by simp), List.append_assoc]
            exact startsWithDigit_append_dollar hd _
      rw [weave_cons (by simp), List.append_assoc, dollarNumbers_append ht,
        dollarNumbers_dollar n hrest, ih (n + 1) hu fun v hv => hts v (by simp [hv])]
      rfl

end Text

namespace Piece

/-- The texts before, between and behind the bound values. -/
def chunks : List Piece → List Text
  | [] => [[]]
  | text t :: rest => Text.prepend t (chunks rest)
  | bound _ :: rest => [] :: chunks rest

@[simp] theorem chunks_ne_nil (pieces : List Piece) : chunks pieces ≠ [] := by
  cases pieces with
  | nil => simp [chunks]
  | cons p rest => cases p <;> simp [chunks]

theorem length_chunks (pieces : List Piece) :
    (chunks pieces).length = (args pieces).length + 1 := by
  induction pieces with
  | nil => rfl
  | cons p rest ih =>
      cases p with
      | text t => simpa [chunks, args, Text.length_prepend] using ih
      | bound v => simp [chunks, args, ih]

/-- The SQL of pieces is the same in every style but for the placeholders. -/
theorem sql_eq_weave (style : PlaceholderStyle) (n : Nat) (pieces : List Piece) :
    sql style n pieces = Text.weave style.placeholder (n + 1) (chunks pieces) := by
  induction pieces generalizing n with
  | nil => rfl
  | cons p rest ih =>
      cases p with
      | text t => rw [sql, ih, chunks, Text.weave_prepend]
      | bound v => rw [sql, ih, chunks, Text.weave_cons (chunks_ne_nil rest), List.nil_append]

/-- The pieces up to a bound value: they hold the arguments and the chunks before it. -/
theorem exists_eq_append_bound {pieces : List Piece} {i : Nat} (h : i < (args pieces).length) :
    ∃ before after, pieces = before ++ bound (args pieces)[i] :: after ∧
      args before = (args pieces).take i ∧ chunks before = (chunks pieces).take (i + 1) := by
  induction pieces generalizing i with
  | nil => simp [args] at h
  | cons p rest ih =>
      cases p with
      | text t =>
          obtain ⟨before, after, hrest, hargs, hchunks⟩ := ih (i := i) h
          refine ⟨text t :: before, after, congrArg (text t :: ·) hrest, hargs, ?_⟩
          simp only [chunks, hchunks]
          cases hc : chunks rest with
          | nil => exact absurd hc (chunks_ne_nil rest)
          | cons => rfl
      | bound v =>
          cases i with
          | zero => exact ⟨[], rest, rfl, rfl, by simp [chunks]⟩
          | succ i =>
              obtain ⟨before, after, hrest, hargs, hchunks⟩ :=
                ih (i := i) (Nat.lt_of_succ_lt_succ h)
              refine ⟨bound v :: before, after, congrArg (bound v :: ·) hrest, ?_, ?_⟩
              · simp [args, hargs]
              · simp [chunks, hchunks]

end Piece

namespace Query

/-- The query in which nothing is written yet. -/
def blank : Query := ⟨[], []⟩

/-- The query after one more piece. A bound value becomes the last argument, and its placeholder
has the number of arguments for its number. -/
def push (style : PlaceholderStyle) (q : Query) : Piece → Query
  | .text t => ⟨q.sql ++ t, q.args⟩
  | .bound v =>
    let args := q.args ++ [v]
    ⟨q.sql ++ style.placeholder args.length, args⟩

/-- Pushing pieces numbers them from the arguments that are there. -/
theorem foldl_push (style : PlaceholderStyle) (q : Query) (pieces : List Piece) :
    pieces.foldl (push style) q =
      ⟨q.sql ++ Piece.sql style q.args.length pieces, q.args ++ Piece.args pieces⟩ := by
  induction pieces generalizing q with
  | nil => simp [Piece.sql, Piece.args]
  | cons p rest ih =>
      cases p with
      | text t => simp [ih, push, Piece.sql, Piece.args]
      | bound v => simp [ih, push, Piece.sql, Piece.args]

/-- A query is what its pieces write from nothing, one after the other. -/
theorem ofPieces_eq_foldl (style : PlaceholderStyle) (pieces : List Piece) :
    ofPieces style pieces = pieces.foldl (push style) blank := by
  simp [foldl_push, blank, ofPieces]

theorem foldl_push_blank (style : PlaceholderStyle) (pieces : List Piece) :
    pieces.foldl (push style) blank =
      ⟨Text.weave style.placeholder 1 (Piece.chunks pieces), Piece.args pieces⟩ := by
  rw [← ofPieces_eq_foldl, ofPieces, Piece.sql_eq_weave]

/-- Pieces emit arguments between chunks. Pushed one by one they make the whole query; and each
argument is bound by a piece of its own, at the moment when the chunks up to it are written and
the arguments before it are bound. -/
structure Emits (pieces : List Piece) (chunks : List Text) (args : List Value) : Prop where
  /-- The pieces together write the chunks and bind the arguments. -/
  whole : ∀ style, pieces.foldl (push style) blank = ⟨Text.weave style.placeholder 1 chunks, args⟩
  /-- What is written when an argument is bound. -/
  each : ∀ i, (h : i < args.length) → ∃ before after, pieces = before ++ .bound args[i] :: after ∧
    ∀ style, before.foldl (push style) blank =
      ⟨Text.weave style.placeholder 1 (chunks.take (i + 1)), args.take i⟩

theorem emits_chunks (pieces : List Piece) : Emits pieces (Piece.chunks pieces) (Piece.args pieces) where
  whole style := foldl_push_blank style pieces
  each i h := by
    obtain ⟨before, after, hpieces, hargs, hchunks⟩ := Piece.exists_eq_append_bound h
    refine ⟨before, after, hpieces, fun style => ?_⟩
    rw [foldl_push_blank, hargs, hchunks]

/-- The pieces that a cleaned template expands to. No style plays a part in them. -/
def pieces? (cleaned : Text) (data : Data) : Except CompileError (List Piece) := do
  let nodes ← Node.ofText? cleaned
  Node.expandAll data nodes

theorem compile_eq_map (style : PlaceholderStyle) (cleaned : Text) (data : Data) :
    compile style cleaned data = (pieces? cleaned data).map (ofPieces style) := by
  rw [compile, pieces?]
  cases Node.ofText? cleaned with
  | error e => rfl
  | ok nodes =>
      rw [Outcome.ok_bind, Outcome.ok_bind]
      cases Node.expandAll data nodes with
      | error e => rfl
      | ok pieces => rfl

theorem compile_of_pieces? {cleaned : Text} {data : Data} {pieces : List Piece}
    (h : pieces? cleaned data = .ok pieces) (style : PlaceholderStyle) :
    compile style cleaned data =
      .ok ⟨Text.weave style.placeholder 1 (Piece.chunks pieces), Piece.args pieces⟩ := by
  rw [compile_eq_map, h, ← foldl_push_blank, ← ofPieces_eq_foldl]
  rfl

/-- **The two styles number one and the same row of arguments.** A template either fails with one
error in both styles, or its queries have the same arguments and the same chunks of text, with
question marks between them in the one and the numbers from one on in the other; and the
placeholder of an argument is the one that was emitted when it was bound. Where the chunks do not
get in the way, counting the question marks gives the number of arguments, and reading the
numbers behind the dollar signs gives them in order. -/
theorem compile_styles (cleaned : Text) (data : Data) :
    (∃ e, compile .question cleaned data = .error e ∧ compile .dollar cleaned data = .error e) ∨
    ∃ (pieces : List Piece) (chunks : List Text) (args : List Value),
      pieces? cleaned data = .ok pieces ∧ Emits pieces chunks args ∧
      chunks.length = args.length + 1 ∧
      compile .question cleaned data = .ok ⟨Text.weave (fun _ => "?") 1 chunks, args⟩ ∧
      compile .dollar cleaned data =
        .ok ⟨Text.weave (fun n => '$' :: Text.ofNat n) 1 chunks, args⟩ ∧
      ((∀ t ∈ chunks, '?' ∉ t) →
        (Text.weave (fun _ => "?") 1 chunks).count '?' = args.length) ∧
      ((∀ t ∈ chunks, '$' ∉ t) → (∀ t ∈ chunks.tail, Text.startsWithDigit t = false) →
        Text.dollarNumbers (Text.weave (fun n => '$' :: Text.ofNat n) 1 chunks) =
          List.range' 1 args.length) := by
  cases hp : pieces? cleaned data with
  | error e => exact .inl ⟨e, by rw [compile_eq_map, hp]; rfl, by rw [compile_eq_map, hp]; rfl⟩
  | ok pieces =>
      have hlength := Piece.length_chunks pieces
      refine .inr ⟨pieces, Piece.chunks pieces, Piece.args pieces, rfl, emits_chunks pieces,
        hlength, compile_of_pieces? hp .question, compile_of_pieces? hp .dollar,
        fun h => ?_, fun h hd => ?_⟩
      · have hcount := Text.count_weave 1 h
        rw [hlength] at hcount
        exact hcount
      · obtain ⟨t, ts, hts⟩ := List.exists_cons_of_ne_nil (Piece.chunks_ne_nil pieces)
        rw [hts, List.tail_cons] at hd
        rw [hts] at h hlength ⊢
        rw [Text.dollarNumbers_weave 1 (h t (by simp)) fun u hu => ⟨h u (by simp [hu]), hd u hu⟩]
        rw [List.length_cons, Nat.add_right_cancel_iff] at hlength
        rw [hlength]

end Query

end TwoWaySql

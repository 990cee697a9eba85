import TwoWaySql.Proofs.Directive.Layout
import TwoWaySql.Proofs.Text.Offset

/-!
# The comments of a text

Which comments of a text are directives can be said without cutting it: each one opens with the
first opener that starts no earlier than the one before it stops, and closes with the first closer
that starts no earlier than its opener stops. No other comments fit that, and cutting the text finds
them.

## Main definitions

* `Occurrence` — a directive comment by its offsets.
* `Layout.occurrences` — the comments that cutting finds.
* `IsScan` — what the comments of a text are, by first occurrences alone.
-/
namespace TwoWaySql

/-- A directive comment by the offsets of its ends and of the ends of its body. -/
structure Occurrence where
  /-- The offset of the opener. -/
  start : Nat
  /-- The offset behind the closer. -/
  stop : Nat
  /-- The offset of the body. -/
  bodyStart : Nat
  /-- The offset behind the body. -/
  bodyStop : Nat
  /-- Whether the blanks before the comment are to go. -/
  trimsLeft : Bool
  /-- Whether the blanks after the comment are to go. -/
  trimsRight : Bool
deriving DecidableEq, Repr

/-- The comment of a span that starts at an offset. -/
def Span.occurrence (s : Span) (offset : Nat) : Occurrence where
  start := offset
  stop := offset + s.comment.byteSize
  bodyStart := offset + s.bodyStart
  bodyStop := offset + s.bodyStart + s.body.byteSize
  trimsLeft := s.trimsLeft
  trimsRight := s.trimsRight

namespace Layout

/-- The comments of a layout that starts at a place. -/
def occurrencesFrom (p : Position) (l : Layout) : List Occurrence :=
  (locate (p.advance l.lead) l.spans).map fun (q, s) => s.occurrence q.offset

/-- The comments of a layout. -/
def occurrences (l : Layout) : List Occurrence := l.occurrencesFrom .start

/-- The place of an opener without a closer in a layout that starts at a place. -/
def unclosedFrom? (p : Position) (l : Layout) : Option Position :=
  let (q, gap) := lastGap p l.lead l.spans
  (gap.cut opener).map fun (before, _) => q.advance before

theorem occurrencesFrom_cons (p : Position) (lead : Text) (s : Span) (spans : List Span) :
    occurrencesFrom p ⟨lead, s :: spans⟩ = s.occurrence (p.advance lead).offset ::
      occurrencesFrom ((p.advance lead).advance s.comment) ⟨s.gap, spans⟩ := by
  simp [occurrencesFrom, locate, Span.text]

theorem text_cons (lead : Text) (s : Span) (spans : List Span) :
    text ⟨lead, s :: spans⟩ = lead ++ (s.comment ++ text ⟨s.gap, spans⟩) := by
  simp [text, Span.text]

/-- Behind a prefix, the first comment and the gap before it are more of the prefix. -/
theorem append_text_cons (u lead : Text) (s : Span) (spans : List Span) :
    u ++ text ⟨lead, s :: spans⟩ = u ++ lead ++ s.comment ++ text ⟨s.gap, spans⟩ := by
  simp [text_cons]

theorem offset_behind {u : Text} {p : Position} (lead comment : Text)
    (hp : p.offset = u.byteSize) :
    ((p.advance lead).advance comment).offset = (u ++ lead ++ comment).byteSize := by
  simp only [Position.offset_advance, Text.byteSize_append, hp]

theorem unclosedFrom?_cons (p : Position) (lead : Text) (s : Span) (spans : List Span) :
    unclosedFrom? p ⟨lead, s :: spans⟩ =
      unclosedFrom? ((p.advance lead).advance s.comment) ⟨s.gap, spans⟩ := rfl

end Layout

/-! ## What a scan finds -/

/-- Whether a comment is the first one of a text from an offset on, with its body and the hyphens
that are trim markers: one at the start, and one at the end of what that leaves. -/
structure Occurrence.IsFirstFrom (c : Occurrence) (source : Text) (offset : Nat) : Prop where
  /-- The comment opens with the first opener. -/
  opens : Text.FirstFrom opener source offset c.start
  /-- The comment closes with the first closer behind the opener. -/
  closes : Text.FirstFrom closer source (c.start + 3) (c.stop - 3)
  /-- The left marker is a hyphen right behind the opener. -/
  trimsLeft_iff : c.trimsLeft = true ↔
    (source.slice (c.start + 3) (c.stop - 3)).head? = some '-'
  /-- The body starts behind the left marker. -/
  bodyStart_eq : c.bodyStart = c.start + 3 + c.trimsLeft.toNat
  /-- The right marker is a hyphen at the end of what is left. -/
  trimsRight_iff : c.trimsRight = true ↔
    (source.slice c.bodyStart (c.stop - 3)).getLast? = some '-'
  /-- The body stops before the right marker. -/
  bodyStop_eq : c.bodyStop = c.stop - 3 - c.trimsRight.toNat

/-- Where the last of several comments stops, or where the search for them started. -/
def stopFrom (offset : Nat) (found : List Occurrence) : Nat :=
  (found.getLast?.map (·.stop)).getD offset

@[simp] theorem stopFrom_nil (offset : Nat) : stopFrom offset [] = offset := rfl

@[simp] theorem stopFrom_cons (offset : Nat) (c : Occurrence) (found : List Occurrence) :
    stopFrom offset (c :: found) = stopFrom c.stop found := by
  rw [stopFrom, stopFrom, List.getLast?_cons]
  cases found.getLast? <;> rfl

/-- Whether comments and an opener without a closer are what a text holds from an offset on. -/
structure IsScan (source : Text) (offset : Nat) (found : List Occurrence)
    (unclosed? : Option Nat) : Prop where
  /-- The comments are in order and apart. -/
  ordered : found.Pairwise fun c c' => c.stop ≤ c'.start
  /-- Each comment is the first one from where the one before it stops. -/
  first : ∀ before c after, found = before ++ c :: after →
    c.IsFirstFrom source (stopFrom offset before)
  /-- The first opener behind all comments is unclosed if no closer stands behind it. -/
  unclosed_iff : ∀ o, unclosed? = some o ↔
    Text.FirstFrom opener source (stopFrom offset found) o ∧
      ∀ c, Text.OccursAt closer source c → c < o + 3
  /-- Otherwise there is no opener behind all comments. -/
  none_iff : unclosed? = none ↔
    ∀ o, Text.OccursAt opener source o → o < stopFrom offset found

variable {source rest lead inside gap : Text} {offset : Nat} {c c' : Occurrence}
  {found : List Occurrence} {unclosed? : Option Nat}

namespace Occurrence.IsFirstFrom

theorem start_le_stop (h : c.IsFirstFrom source offset) : c.start ≤ c.stop := by
  have hstart := h.closes.start_le
  omega

/-- There is only one first comment. -/
theorem unique (h : c.IsFirstFrom source offset) (h' : c'.IsFirstFrom source offset) : c = c' := by
  have hstart : c.start = c'.start := h.opens.unique h'.opens
  have hstop : c.stop = c'.stop := by
    have hclose := h.closes.unique (hstart ▸ h'.closes)
    have hle := h.closes.start_le
    have hle' := h'.closes.start_le
    omega
  have hleft : c.trimsLeft = c'.trimsLeft := by
    rw [Bool.eq_iff_iff, h.trimsLeft_iff, h'.trimsLeft_iff, hstart, hstop]
  have hbodyStart : c.bodyStart = c'.bodyStart := by
    rw [h.bodyStart_eq, h'.bodyStart_eq, hstart, hleft]
  have hright : c.trimsRight = c'.trimsRight := by
    rw [Bool.eq_iff_iff, h.trimsRight_iff, h'.trimsRight_iff, hbodyStart, hstop]
  have hbodyStop : c.bodyStop = c'.bodyStop := by
    rw [h.bodyStop_eq, h'.bodyStop_eq, hstop, hright]
  cases c
  cases c'
  simp_all

end Occurrence.IsFirstFrom

namespace IsScan

/-- A scan that finds a comment goes on where the comment stops. -/
theorem tail (h : IsScan source offset (c :: found) unclosed?) :
    c.IsFirstFrom source offset ∧ IsScan source c.stop found unclosed? := by
  refine ⟨h.first [] c found rfl, h.ordered.tail, fun before c' after hfound => ?_, ?_, ?_⟩
  · have hc' := h.first (c :: before) c' after (by rw [hfound, List.cons_append])
    rwa [stopFrom_cons] at hc'
  · simpa using h.unclosed_iff
  · simpa using h.none_iff

/-- No comment starts before the offset that the scan starts at. -/
theorem le_start (h : IsScan source offset found unclosed?) : ∀ c ∈ found, offset ≤ c.start := by
  induction found generalizing offset with
  | nil => simp
  | cons c found ih =>
      obtain ⟨hc, hfound⟩ := h.tail
      intro c' hc'
      rcases List.mem_cons.1 hc' with rfl | hmem
      · exact hc.opens.start_le
      · have hstop := ih hfound c' hmem
        have hstart := hc.start_le_stop
        have hoffset := hc.opens.start_le
        omega

theorem cons (hc : c.IsFirstFrom source offset) (h : IsScan source c.stop found unclosed?) :
    IsScan source offset (c :: found) unclosed? := by
  refine ⟨List.pairwise_cons.2 ⟨h.le_start, h.ordered⟩, fun before c' after hfound => ?_, ?_, ?_⟩
  · cases before with
    | nil =>
        cases hfound
        exact hc
    | cons d before =>
        cases hfound
        rw [stopFrom_cons]
        exact h.first before c' after rfl
  · simpa using h.unclosed_iff
  · simpa using h.none_iff

/-- A first comment is not passed over: its opener stands there, and it is not unclosed. -/
theorem not_nil (hc : c.IsFirstFrom source offset) : ¬ IsScan source offset [] unclosed? := by
  intro h
  cases hunclosed : unclosed? with
  | none =>
      have hlt := h.none_iff.1 hunclosed c.start hc.opens.occurs
      have hle := hc.opens.start_le
      rw [stopFrom_nil] at hlt
      omega
  | some o =>
      obtain ⟨hopens, hclosers⟩ := (h.unclosed_iff o).1 hunclosed
      rw [stopFrom_nil] at hopens
      have hstart := hopens.unique hc.opens
      have hlt := hclosers _ hc.closes.occurs
      have hle := hc.closes.start_le
      omega

end IsScan

/-! ## What cutting finds -/

namespace Span

/-- A trim marker, if there is one. -/
def marker (present : Bool) : Text := if present then ['-'] else []

@[simp] theorem byteSize_marker (present : Bool) : (marker present).byteSize = present.toNat := by
  cases present <;> rfl

theorem inside_eq_marker_append (s : Span) : s.inside = marker s.trimsLeft ++ s.unmarked := by
  rw [unmarked, marker]
  by_cases hleft : s.trimsLeft = true
  · obtain ⟨rest, hinside⟩ : ∃ rest, s.inside = '-' :: rest :=
      List.head?_eq_some_iff.1 (by simpa [trimsLeft] using hleft)
    simp [hleft, hinside]
  · simp [hleft]

theorem unmarked_eq_append_marker (s : Span) : s.unmarked = s.body ++ marker s.trimsRight := by
  rw [body, marker]
  by_cases hright : s.trimsRight = true
  · obtain ⟨before, hunmarked⟩ : ∃ before, s.unmarked = before ++ ['-'] :=
      List.getLast?_eq_some_iff.1 (by simpa [trimsRight] using hright)
    simp [hright, hunmarked]
  · simp [hright]

theorem bodyStart_eq (s : Span) : s.bodyStart = 3 + s.trimsLeft.toNat := by
  rw [bodyStart]
  cases s.trimsLeft <;> rfl

theorem byteSize_comment (s : Span) : s.comment.byteSize = 3 + s.inside.byteSize + 3 := by
  have hopener : Text.byteSize opener = 3 := by decide
  have hcloser : Text.byteSize closer = 3 := by decide
  rw [comment, Text.byteSize_append, Text.byteSize_append, hopener, hcloser]

end Span

/-- What cutting finds first in a text is the first comment of it. -/
theorem isFirstFrom_occurrence (s : Span) {u after rest' : Text}
    (hopen : rest.cut opener = some (lead, after))
    (hclose : after.cut closer = some (s.inside, rest')) :
    (s.occurrence (u.byteSize + lead.byteSize)).IsFirstFrom (u ++ rest) u.byteSize := by
  have hopener : Text.byteSize opener = 3 := by decide
  have hsize : (u ++ lead ++ opener).byteSize = u.byteSize + lead.byteSize + 3 := by
    simp only [Text.byteSize_append, hopener]
  have hsource : u ++ rest = (u ++ lead ++ opener) ++ (s.inside ++ (closer ++ rest')) := by
    simp [Text.eq_of_cut hopen, Text.eq_of_cut hclose]
  have hunmarked : u ++ rest = (u ++ lead ++ opener ++ Span.marker s.trimsLeft) ++
      (s.unmarked ++ (closer ++ rest')) := by
    rw [hsource, s.inside_eq_marker_append]
    simp
  have hinside : s.inside.byteSize = s.trimsLeft.toNat + s.unmarked.byteSize := by
    rw [s.inside_eq_marker_append, Text.byteSize_append, Span.byteSize_marker]
  have hbody : s.unmarked.byteSize = s.body.byteSize + s.trimsRight.toNat := by
    rw [s.unmarked_eq_append_marker, Text.byteSize_append, Span.byteSize_marker]
  have hcomment := s.byteSize_comment
  have hbodyStart := s.bodyStart_eq
  refine ⟨?_, ?_, ?_, ?_, ?_, ?_⟩ <;> dsimp only [Span.occurrence]
  · exact Text.firstFrom_append_iff.2 ⟨lead, after, hopen, rfl⟩
  · rw [← hsize, Text.eq_of_cut hopen, ← List.append_assoc, ← List.append_assoc]
    exact Text.firstFrom_append_iff.2 ⟨s.inside, rest', hclose, by omega⟩
  · rw [Text.slice_eq _ _ hsource hsize.symm (by omega), Span.trimsLeft, beq_iff_eq]
  · omega
  · have hstart : u.byteSize + lead.byteSize + s.bodyStart =
        Text.byteSize (u ++ lead ++ opener ++ Span.marker s.trimsLeft) := by
      simp only [Text.byteSize_append, Span.byteSize_marker]
      omega
    rw [Text.slice_eq _ _ hunmarked hstart (by omega), Span.trimsRight, beq_iff_eq]
  · omega

/-- Where no opener has a closer, no comment is found. -/
theorem isScan_append_iff_of_not_cut {u : Text}
    (h : ∀ lead after, rest.cut opener = some (lead, after) → after.cut closer = none) :
    IsScan (u ++ rest) u.byteSize found unclosed? ↔
      found = [] ∧ unclosed? = (rest.cut opener).map fun r => u.byteSize + r.1.byteSize := by
  have hopener : Text.byteSize opener = 3 := by decide
  have hunclosed : ∀ lead after, rest.cut opener = some (lead, after) →
      ∀ c, Text.OccursAt closer (u ++ rest) c → c < u.byteSize + lead.byteSize + 3 := by
    intro lead after hopen
    have hlt := (Text.forall_occursAt_append_lt_iff (u := u ++ lead ++ opener)).2
      (h lead after hopen)
    simp only [Text.byteSize_append, hopener] at hlt
    rwa [Text.eq_of_cut hopen, ← List.append_assoc, ← List.append_assoc]
  have hsome : ∀ o, (Text.FirstFrom opener (u ++ rest) u.byteSize o ∧
      ∀ c, Text.OccursAt closer (u ++ rest) c → c < o + 3) ↔
        ((rest.cut opener).map fun r => u.byteSize + r.1.byteSize) = some o := by
    intro o
    rw [Text.firstFrom_append_iff, Option.map_eq_some_iff]
    constructor
    · rintro ⟨⟨lead, after, hopen, rfl⟩, -⟩
      exact ⟨(lead, after), hopen, rfl⟩
    · rintro ⟨⟨lead, after⟩, hopen, rfl⟩
      exact ⟨⟨lead, after, hopen, rfl⟩, hunclosed lead after hopen⟩
  constructor
  · intro hscan
    cases found with
    | nil =>
        refine ⟨rfl, Option.ext fun o => ?_⟩
        rw [← hsome, hscan.unclosed_iff, stopFrom_nil]
    | cons c found =>
        obtain ⟨hc, -⟩ := hscan.tail
        obtain ⟨lead, after, hopen, hstart⟩ := Text.firstFrom_append_iff.1 hc.opens
        have hlt := hunclosed lead after hopen _ hc.closes.occurs
        have hle := hc.closes.start_le
        omega
  · rintro ⟨rfl, rfl⟩
    refine ⟨.nil, by simp, fun o => ?_, ?_⟩
    · rw [stopFrom_nil, hsome]
    · rw [stopFrom_nil, Text.forall_occursAt_append_lt_iff, Option.map_eq_none_iff]

/-- Behind a prefix, a scan finds what cutting the rest of the text finds. -/
theorem isScan_append_iff {u : Text} {p : Position} (hp : p.offset = u.byteSize) :
    IsScan (u ++ rest) u.byteSize found unclosed? ↔
      found = (Layout.ofText rest).occurrencesFrom p ∧
        unclosed? = ((Layout.ofText rest).unclosedFrom? p).map (·.offset) := by
  have hdone : ∀ {rest : Text} {u : Text} {p : Position} {found : List Occurrence},
      (∀ lead after, rest.cut opener = some (lead, after) → after.cut closer = none) →
        p.offset = u.byteSize → (IsScan (u ++ rest) u.byteSize found unclosed? ↔
          found = (Layout.ofText rest).occurrencesFrom p ∧
            unclosed? = ((Layout.ofText rest).unclosedFrom? p).map (·.offset)) := by
    intro rest u p found hnot hp
    rw [isScan_append_iff_of_not_cut hnot, Layout.ofText_of_not_cut hnot]
    cases hopen : rest.cut opener <;>
      simp [Layout.occurrencesFrom, Layout.locate, Layout.unclosedFrom?, Layout.lastGap, hopen, hp]
  -- along the cuts of the rest, the prefix growing by a gap and a comment at each
  induction rest using Layout.ofText.induct generalizing u p found with
  | case1 rest hopen => exact hdone (by simp [hopen]) hp
  | case2 rest lead after hopen hclose => exact hdone (by simp [hopen, hclose]) hp
  | case3 rest lead after hopen inside rest' hclose ih =>
      let s : Span := ⟨inside, (Layout.ofText rest').lead⟩
      have hfirst := isFirstFrom_occurrence s (u := u) hopen hclose
      have hp' := Layout.offset_behind lead s.comment hp
      have hstop : (s.occurrence (u.byteSize + lead.byteSize)).stop =
          (u ++ lead ++ s.comment).byteSize := by
        simp only [Span.occurrence, Text.byteSize_append]
      have hsource : u ++ rest = (u ++ lead ++ s.comment) ++ rest' := by
        simp [Text.eq_of_cut hopen, Text.eq_of_cut hclose, Span.comment, s]
      rw [Layout.ofText_of_cut hopen hclose, Layout.occurrencesFrom_cons,
        Layout.unclosedFrom?_cons, Position.offset_advance, hp]
      constructor
      · intro hscan
        cases found with
        | nil => exact absurd hscan (IsScan.not_nil hfirst)
        | cons c found =>
            obtain ⟨hc, htail⟩ := hscan.tail
            have heq := hc.unique hfirst
            rw [heq, hstop, hsource] at htail
            obtain ⟨hfound, hunclosed⟩ := (ih hp').1 htail
            exact ⟨by rw [heq, hfound], hunclosed⟩
      · rintro ⟨rfl, rfl⟩
        refine IsScan.cons hfirst ?_
        rw [hstop, hsource]
        exact (ih hp').2 ⟨rfl, rfl⟩

/-! ## What a scan leaves out -/

/-- An opener stands in a comment, or not before the unclosed one. -/
theorem IsScan.exists_of_occursAt (h : IsScan source offset found unclosed?) {o : Nat}
    (ho : Text.OccursAt opener source o) (hoffset : offset ≤ o) :
    (∃ c ∈ found, c.start ≤ o ∧ o < c.stop) ∨ ∃ o' ∈ unclosed?, o' ≤ o := by
  induction found generalizing offset with
  | nil =>
      cases hunclosed : unclosed? with
      | none =>
          have hlt := h.none_iff.1 hunclosed o ho
          rw [stopFrom_nil] at hlt
          omega
      | some o' =>
          obtain ⟨hopens, -⟩ := (h.unclosed_iff o').1 hunclosed
          exact .inr ⟨o', rfl, hopens.le o ho hoffset⟩
  | cons c found ih =>
      obtain ⟨hc, hfound⟩ := h.tail
      rcases Nat.lt_or_ge o c.stop with hlt | hle
      · exact .inl ⟨c, List.mem_cons_self, hc.opens.le o ho hoffset, hlt⟩
      · refine (ih hfound hle).imp_left ?_
        rintro ⟨c', hc', hin⟩
        exact ⟨c', List.mem_cons_of_mem c hc', hin⟩

/-- The gaps between comments from an offset on, and the comments between them. -/
def slices (source : Text) (offset : Nat) : List Occurrence → List Text
  | [] => [source.slice offset source.byteSize]
  | c :: rest =>
    source.slice offset c.start :: source.slice c.start c.stop :: slices source c.stop rest

namespace Layout

variable {u : Text} {p : Position}

theorem slices_occurrencesFrom (lead : Text) (spans : List Span) (hp : p.offset = u.byteSize) :
    slices (u ++ text ⟨lead, spans⟩) u.byteSize (occurrencesFrom p ⟨lead, spans⟩) =
      lead :: spans.flatMap fun s => [s.comment, s.gap] := by
  induction spans generalizing u p lead with
  | nil =>
      have hlead : Text.slice (u ++ text ⟨lead, []⟩) u.byteSize (u ++ text ⟨lead, []⟩).byteSize =
          lead :=
        Text.slice_eq u [] (by simp [text]) rfl (by simp [text])
      exact congrArg (List.cons · []) hlead
  | cons s spans ih =>
      have hrest := ih s.gap (offset_behind lead s.comment hp)
      have hlead : Text.slice (u ++ text ⟨lead, s :: spans⟩) u.byteSize
          (u.byteSize + lead.byteSize) = lead :=
        Text.slice_eq u (s.comment ++ text ⟨s.gap, spans⟩) (by simp [text_cons]) rfl rfl
      have hcomment : Text.slice (u ++ text ⟨lead, s :: spans⟩) (u.byteSize + lead.byteSize)
          (u.byteSize + lead.byteSize + s.comment.byteSize) = s.comment :=
        Text.slice_eq (u ++ lead) (text ⟨s.gap, spans⟩) (by simp [text_cons])
          (by simp) rfl
      rw [← append_text_cons] at hrest
      rw [occurrencesFrom_cons, slices, Position.offset_advance, hp]
      simp only [Span.occurrence, hlead, hcomment]
      rw [← Text.byteSize_append, ← Text.byteSize_append, hrest]
      rfl

/-- The gaps and the comments of a layout, in turn, are its text. -/
theorem flatten_slices (lead : Text) (spans : List Span) :
    (lead :: spans.flatMap fun s => [s.comment, s.gap]).flatten = text ⟨lead, spans⟩ := by
  induction spans generalizing lead with
  | nil => simp [text]
  | cons s spans ih =>
      have hrest := ih s.gap
      rw [List.flatten_cons] at hrest
      simp [text_cons, hrest]

/-- The bodies of the comments stand between their offsets. -/
theorem map_slice_occurrencesFrom (lead : Text) (spans : List Span) (hp : p.offset = u.byteSize) :
    ((occurrencesFrom p ⟨lead, spans⟩).map fun c =>
        Text.slice (u ++ text ⟨lead, spans⟩) c.bodyStart c.bodyStop) = spans.map Span.body := by
  induction spans generalizing u p lead with
  | nil => rfl
  | cons s spans ih =>
      have hrest := ih s.gap (offset_behind lead s.comment hp)
      have hbody : Text.slice (u ++ text ⟨lead, s :: spans⟩)
          (u.byteSize + lead.byteSize + s.bodyStart)
          (u.byteSize + lead.byteSize + s.bodyStart + s.body.byteSize) = s.body := by
        have hopener : Text.byteSize opener = 3 := by decide
        refine Text.slice_eq (u ++ lead ++ opener ++ Span.marker s.trimsLeft)
          (Span.marker s.trimsRight ++ closer ++ text ⟨s.gap, spans⟩) ?_ ?_ rfl
        · rw [text_cons, Span.comment, s.inside_eq_marker_append, s.unmarked_eq_append_marker]
          simp
        · simp only [Text.byteSize_append, hopener, Span.byteSize_marker, s.bodyStart_eq]
          omega
      rw [← append_text_cons] at hrest
      rw [occurrencesFrom_cons, List.map_cons, List.map_cons, hrest, Position.offset_advance, hp]
      simp only [Span.occurrence, hbody]

/-- **A scan is unique, and cutting the text gives it.** The comments are the only ones that open
with the first opener behind the one before and close with the first closer behind that, up to an
opener without a closer or to the end. Their bodies are the texts between them without a trim marker
at either end. Gaps and comments together are the text, and every opener in it stands in a comment
or not before the unclosed one. -/
theorem isScan_iff_occurrences (source : Text) :
    (∀ found unclosed?, IsScan source 0 found unclosed? ↔
      found = (ofText source).occurrences ∧
        unclosed? = (ofText source).unclosed?.map (·.offset)) ∧
    (slices source 0 (ofText source).occurrences).flatten = source ∧
    ((ofText source).occurrences.map fun c => source.slice c.bodyStart c.bodyStop) =
      (ofText source).spans.map Span.body ∧
    ∀ o, Text.OccursAt opener source o →
      (∃ c ∈ (ofText source).occurrences, c.start ≤ o ∧ o < c.stop) ∨
        ∃ p ∈ (ofText source).unclosed?, p.offset ≤ o := by
  have hscan : ∀ found unclosed?, IsScan source 0 found unclosed? ↔
      found = (ofText source).occurrences ∧
        unclosed? = (ofText source).unclosed?.map (·.offset) :=
    fun _ _ => isScan_append_iff (u := []) (p := .start) rfl
  have htext := text_ofText source
  refine ⟨hscan, ?_, ?_, fun o ho => ?_⟩
  · have hslices := slices_occurrencesFrom (u := []) (p := .start) (ofText source).lead
      (ofText source).spans rfl
    rw [List.nil_append, htext, Text.byteSize_nil] at hslices
    rw [occurrences, hslices, flatten_slices]
    exact htext
  · have hbodies := map_slice_occurrencesFrom (u := []) (p := .start) (ofText source).lead
      (ofText source).spans rfl
    rwa [List.nil_append, htext] at hbodies
  · refine (((hscan _ _).2 ⟨rfl, rfl⟩).exists_of_occursAt ho (Nat.zero_le o)).imp_right ?_
    rintro ⟨o', ho', hle⟩
    obtain ⟨p, hp, rfl⟩ := Option.map_eq_some_iff.1 ho'
    exact ⟨p, hp, hle⟩

/-- Delimiters that share characters: the star of an opener is not one of its closer. -/
example : (ofText "/***/-**//**").occurrences = [⟨0, 9, 3, 5, false, true⟩] ∧
    (ofText "/***/-**//**").unclosed?.map (·.offset) = some 9 := by decide +kernel

end Layout

/-- The directives of a template are in the order of their places. -/
theorem Directive.pairwise_all (source : Text) :
    (Directive.all source).Pairwise fun d d' => d.position.offset < d'.position.offset := by
  refine (Layout.ofText source).pairwise_located.filterMap _ ?_
  intro (p, s) (p', s') hle d hd d' hd'
  have hpos := Span.byteSize_comment s
  dsimp only at hle hd hd'
  rw [Directive.position_of_ofSpan? hd, Directive.position_of_ofSpan? hd']
  omega

end TwoWaySql

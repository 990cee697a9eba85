import TwoWaySql.Proofs.Directive.Scan
import TwoWaySql.Proofs.Offsets.Slice
import TwoWaySql.Query.Node

/-!
# Scanning by offsets

The comments of a text are found by going from offset to offset, and each search goes through a
slice from where the one before it ended. All of these slices exist, so that the scan has a result,
and it is the comments that cutting the text finds. The same is said of reading a directive from its
comment, and an argument from its token.

## Main definitions

* `Offsets.scan?` — the comments of a text and the offset of an opener without a closer.
* `Offsets.classify?` — the argument that a token stands for.
* `Offsets.directive?` — the directive of a comment.
-/
namespace TwoWaySql

/-! ## Comments and the text before them -/

/-- The place of an opener without a closer is the end of a prefix. -/
theorem Layout.exists_of_unclosedFrom? {u gap : Text} {spans : List Span} {p : Position}
    (h : unclosedFrom? (.after u) ⟨gap, spans⟩ = some p) :
    ∃ before rest, u ++ text ⟨gap, spans⟩ = before ++ rest ∧ p = .after before := by
  induction spans generalizing u gap with
  | nil =>
      obtain ⟨⟨lead, rest⟩, hcut, rfl⟩ := Option.map_eq_some_iff.1 h
      refine ⟨u ++ lead, opener ++ rest, ?_, Position.advance_after u lead⟩
      have hgap : gap = lead ++ opener ++ rest := Text.eq_of_cut hcut
      simp [text, hgap]
  | cons s spans ih =>
      rw [unclosedFrom?_cons, Position.advance_after, Position.advance_after] at h
      rw [append_text_cons]
      exact ih h

/-- The comments of a template, each behind the text before it. -/
theorem Layout.exists_of_mem_located {source : Text} {p : Position} {s : Span}
    (h : (p, s) ∈ (ofText source).located) :
    ∃ before after, source = before ++ s.comment ++ after ∧ p = .after before := by
  obtain ⟨before, after, hsource, hp⟩ := exists_text_of_mem_located h
  exact ⟨before, s.gap ++ after, by simpa [Span.text] using hsource, hp⟩

namespace Offsets

variable {source before after rest : Text} {s : Span}

/-! ## Comments -/

/-- Whether a part between offsets ends in a hyphen. An empty part is not looked at. -/
def endsInHyphen? (source : Text) (start stop : Nat) : Option Bool :=
  if start < stop then (source.slice? start stop).map fun part => part.getLast? == some '-'
  else some false

/-- The comment between an opener and a closer, told by the offsets of the opener, of what is behind
it, and of the closer. -/
def comment? (source : Text) (start inner close : Nat) : Option Occurrence := do
  let inside ← source.slice? inner close
  let trimsLeft := inside.head? == some '-'
  let bodyStart := if trimsLeft then inner + 1 else inner
  let trimsRight ← endsInHyphen? source bodyStart close
  let bodyStop := if trimsRight then close - 1 else close
  return ⟨start, close + closer.byteSize, bodyStart, bodyStop, trimsLeft, trimsRight⟩

/-- The comments from an offset on, and the offset of an opener without a closer. -/
def scanFrom? (source : Text) (cursor : Nat) : Option (List Occurrence × Option Nat) :=
  match _rest : source.slice? cursor source.byteSize with
  | none => none
  | some rest =>
    match _open : rest.offsetOf? opener with
    | none => some ([], none)
    | some found =>
      let start := cursor + found
      let inner := start + opener.byteSize
      match source.slice? inner source.byteSize with
      | none => none
      | some rest =>
        match rest.offsetOf? closer with
        | none => some ([], some start)
        | some found =>
          let close := inner + found
          match comment? source start inner close with
          | none => none
          | some c =>
            (scanFrom? source (close + closer.byteSize)).map fun (cs, unclosed?) =>
              (c :: cs, unclosed?)
termination_by source.byteSize - cursor
decreasing_by
  have hrest := Text.add_byteSize_of_slice? _rest
  have hopen := Text.offsetOf?_le _open
  have hopener : Text.byteSize opener = 3 := by decide
  simp only [hopener] at hopen ⊢
  omega

/-- The comments of a text, and the offset of an opener without a closer. -/
def scan? (source : Text) : Option (List Occurrence × Option Nat) := scanFrom? source 0

/-- The text between the offsets of a comment's body. -/
def body? (source : Text) (c : Occurrence) : Option Text := source.slice? c.bodyStart c.bodyStop

theorem byteSize_opener : Text.byteSize opener = 3 := by decide

theorem byteSize_closer : Text.byteSize closer = 3 := by decide

theorem endsInHyphen?_eq {part : Text} {start stop : Nat}
    (h : source.slice? start stop = some part) :
    endsInHyphen? source start stop = some (part.getLast? == some '-') := by
  rw [endsInHyphen?, h]
  split
  · rfl
  · next hlt =>
    have hsize := Text.add_byteSize_of_slice? h
    have hempty : part = [] := Text.byteSize_eq_zero_iff.1 (by omega)
    rw [hempty]
    rfl

theorem slice?_inside (before after : Text) (s : Span) :
    (before ++ s.comment ++ after).slice? (before.byteSize + opener.byteSize)
      (before.byteSize + opener.byteSize + s.inside.byteSize) = some s.inside := by
  have hsource : before ++ s.comment ++ after =
      (before ++ opener) ++ s.inside ++ (closer ++ after) := by
    simp [Span.comment]
  rw [hsource]
  exact Text.slice?_append _ _ _ (by simp) (by simp [Nat.add_assoc])

theorem slice?_unmarked (before after : Text) (s : Span) :
    (before ++ s.comment ++ after).slice? (before.byteSize + s.bodyStart)
      (before.byteSize + opener.byteSize + s.inside.byteSize) = some s.unmarked := by
  have hsource : before ++ s.comment ++ after =
      (before ++ opener ++ Span.marker s.trimsLeft) ++ s.unmarked ++ (closer ++ after) := by
    rw [Span.comment, s.inside_eq_marker_append]
    simp
  have hsize : s.inside.byteSize = s.trimsLeft.toNat + s.unmarked.byteSize := by
    rw [s.inside_eq_marker_append, Text.byteSize_append, Span.byteSize_marker]
  rw [hsource]
  refine Text.slice?_append _ _ _ ?_ ?_ <;>
    simp [byteSize_opener, s.bodyStart_eq, hsize, Nat.add_assoc]

/-- The offsets of a comment are found through slices that exist. -/
theorem comment?_eq (before after : Text) (s : Span) :
    comment? (before ++ s.comment ++ after) before.byteSize (before.byteSize + opener.byteSize)
      (before.byteSize + opener.byteSize + s.inside.byteSize) =
        some (s.occurrence before.byteSize) := by
  have hunmarked := slice?_unmarked before after s
  have hleft : (s.inside.head? == some '-') = s.trimsLeft := rfl
  have hstart : (if s.trimsLeft then before.byteSize + opener.byteSize + 1
      else before.byteSize + opener.byteSize) = before.byteSize + s.bodyStart := by
    rw [Span.bodyStart, byteSize_opener]
    split <;> rfl
  have hright : (s.unmarked.getLast? == some '-') = s.trimsRight := rfl
  have hstop : (if s.trimsRight then before.byteSize + opener.byteSize + s.inside.byteSize - 1
      else before.byteSize + opener.byteSize + s.inside.byteSize) =
        before.byteSize + s.bodyStart + s.body.byteSize := by
    have hsize := Text.add_byteSize_of_slice? hunmarked
    rw [s.unmarked_eq_append_marker, Text.byteSize_append, Span.byteSize_marker] at hsize
    cases hright : s.trimsRight <;> rw [hright] at hsize <;> simp at hsize ⊢ <;> omega
  have hcomment : before.byteSize + opener.byteSize + s.inside.byteSize + closer.byteSize =
      before.byteSize + s.comment.byteSize := by
    rw [s.byteSize_comment, byteSize_opener, byteSize_closer]
    omega
  simp only [comment?, slice?_inside, Option.bind_eq_bind, Option.bind_some, hleft, hstart,
    endsInHyphen?_eq hunmarked, hright, hstop, hcomment]
  rfl

/-- One round of a scan, where the slice that it searches exists. -/
theorem scanFrom?_eq {cursor : Nat} (hrest : source.slice? cursor source.byteSize = some rest) :
    scanFrom? source cursor =
      match rest.offsetOf? opener with
      | none => some ([], none)
      | some found =>
        let start := cursor + found
        let inner := start + opener.byteSize
        match source.slice? inner source.byteSize with
        | none => none
        | some rest =>
          match rest.offsetOf? closer with
          | none => some ([], some start)
          | some found =>
            let close := inner + found
            match comment? source start inner close with
            | none => none
            | some c =>
              (scanFrom? source (close + closer.byteSize)).map fun (cs, unclosed?) =>
                (c :: cs, unclosed?) := by
  rw [scanFrom?]
  split
  · next h => simp [hrest] at h
  · next rest' h =>
    obtain rfl : rest = rest' := by simpa [hrest] using h
    split
    · next hopen => simp [hopen]
    · next found hopen => simp only [hopen]

/-- Behind a prefix, scanning finds what cutting the rest of the text finds. -/
theorem scanFrom?_append {u : Text} {p : Position} (hp : p.offset = u.byteSize) :
    scanFrom? (u ++ rest) u.byteSize = some ((Layout.ofText rest).occurrencesFrom p,
      ((Layout.ofText rest).unclosedFrom? p).map (·.offset)) := by
  have hbehind : ∀ {u rest lead after : Text}, rest.cut opener = some (lead, after) →
      (u ++ rest).slice? (u.byteSize + lead.byteSize + opener.byteSize) (u ++ rest).byteSize =
        some after := by
    intro u rest lead after hopen
    have hsource : u ++ rest = (u ++ lead ++ opener) ++ after := by simp [Text.eq_of_cut hopen]
    rw [hsource]
    exact Text.slice?_rest _ _ (by simp [Nat.add_assoc]) rfl
  -- along the cuts of the rest, the prefix growing by a gap and a comment at each
  induction rest using Layout.ofText.induct generalizing u p with
  | case1 rest hopen =>
      rw [scanFrom?_eq (Text.slice?_rest u rest rfl rfl)]
      simp [Text.offsetOf?, hopen, Layout.ofText_of_not_cut, Layout.occurrencesFrom, Layout.locate,
        Layout.unclosedFrom?, Layout.lastGap]
  | case2 rest lead after hopen hclose =>
      rw [scanFrom?_eq (Text.slice?_rest u rest rfl rfl)]
      simp only [Text.offsetOf?, hopen, Option.map_some, hbehind hopen, hclose, Option.map_none]
      simp [hp, hopen, hclose, Layout.ofText_of_not_cut, Layout.occurrencesFrom, Layout.locate,
        Layout.unclosedFrom?, Layout.lastGap]
  | case3 rest lead after hopen inside rest' hclose ih =>
      let s : Span := ⟨inside, (Layout.ofText rest').lead⟩
      have hp' := Layout.offset_behind lead s.comment hp
      have hsource : u ++ rest = (u ++ lead) ++ s.comment ++ rest' := by
        simp [Text.eq_of_cut hopen, Text.eq_of_cut hclose, Span.comment, s]
      have hcomment : comment? (u ++ lead ++ s.comment ++ rest') (u.byteSize + lead.byteSize)
          (u.byteSize + lead.byteSize + opener.byteSize)
          (u.byteSize + lead.byteSize + opener.byteSize + inside.byteSize) =
            some (s.occurrence (u.byteSize + lead.byteSize)) := by
        have hbefore := comment?_eq (u ++ lead) rest' s
        rwa [Text.byteSize_append] at hbefore
      have hstop : u.byteSize + lead.byteSize + opener.byteSize + inside.byteSize +
          closer.byteSize = (u ++ lead ++ s.comment).byteSize := by
        simp only [Text.byteSize_append, Span.comment, s, Nat.add_assoc]
      rw [scanFrom?_eq (Text.slice?_rest u rest rfl rfl)]
      simp only [Text.offsetOf?, hopen, Option.map_some, hbehind hopen, hclose, hstop]
      rw [hsource, hcomment, ih hp', Layout.ofText_of_cut hopen hclose, Layout.occurrencesFrom_cons,
        Layout.unclosedFrom?_cons, Position.offset_advance, hp]
      rfl

/-- **Scanning by offsets** finds the comments that cutting finds. -/
theorem scan?_eq (source : Text) : scan? source = some ((Layout.ofText source).occurrences,
    (Layout.ofText source).unclosed?.map (·.offset)) :=
  scanFrom?_append (u := []) (p := .start) rfl

theorem body?_eq (before after : Text) (s : Span) :
    body? (before ++ s.comment ++ after) (s.occurrence before.byteSize) = some s.body := by
  have hsource : before ++ s.comment ++ after =
      (before ++ opener ++ Span.marker s.trimsLeft) ++ s.body ++
        (Span.marker s.trimsRight ++ closer ++ after) := by
    rw [Span.comment, s.inside_eq_marker_append, s.unmarked_eq_append_marker]
    simp
  rw [body?, hsource]
  refine Text.slice?_append _ _ _ ?_ ?_ <;>
    simp [Span.occurrence, byteSize_opener, s.bodyStart_eq, Nat.add_assoc]

/-! ## Directives -/

/-- The argument that a token stands for, the inside of quotes being a slice. -/
def classify? (token : Text) : Option Arg :=
  match token with
  | '.' :: c :: rest => some (.field (c :: rest))
  | token =>
    if 2 ≤ token.byteSize ∧ token.head? = some '"' ∧ token.getLast? = some '"' then do
      let inner ← token.slice? 1 (token.byteSize - 1)
      return .quoted (Arg.unescape inner)
    else some (.bare token)

/-- Between two quotes there is a slice, and a lone quote is not taken for two. -/
theorem classify?_quote (rest : Text) :
    classify? ('"' :: rest) = some (Arg.ofToken ('"' :: rest)) := by
  have hquote : Char.utf8Size '"' = 1 := by decide
  have hclassify : classify? ('"' :: rest) =
      if 2 ≤ Text.byteSize ('"' :: rest) ∧ ('"' :: rest).head? = some '"' ∧
          ('"' :: rest).getLast? = some '"' then
        (Text.slice? ('"' :: rest) 1 (Text.byteSize ('"' :: rest) - 1)).bind fun inner =>
          some (.quoted (Arg.unescape inner))
      else some (.bare ('"' :: rest)) := rfl
  rw [hclassify]
  rcases List.eq_nil_or_concat rest with rfl | ⟨inner, c, rfl⟩
  · simp [hquote, Arg.ofToken]
  · have hlast : ('"' :: (inner ++ [c])).getLast? = some c := by
      rw [← List.cons_append, List.getLast?_concat]
    rw [List.concat_eq_append]
    by_cases hc : c = '"'
    · subst hc
      have hsize : 2 ≤ Text.byteSize ('"' :: (inner ++ ['"'])) := by
        simp only [Text.byteSize_cons, Text.byteSize_append, hquote]
        omega
      have hslice : Text.slice? ('"' :: (inner ++ ['"'])) 1
          (Text.byteSize ('"' :: (inner ++ ['"'])) - 1) = some inner := by
        refine Text.slice?_append ['"'] inner ['"'] (by simp [hquote]) ?_
        simp [hquote]
        omega
      rw [if_pos ⟨hsize, rfl, hlast⟩, hslice]
      simp [Arg.ofToken]
    · simp [hlast, hc, Arg.ofToken]

/-- Classifying a token has a result. -/
theorem classify?_eq (token : Text) : classify? token = some (Arg.ofToken token) := by
  rcases token with - | ⟨c, rest⟩
  · simp [classify?, Arg.ofToken]
  · by_cases hquote : c = '"'
    · rw [hquote, classify?_quote]
    · by_cases hdot : c = '.'
      · cases rest <;> simp [classify?, Arg.ofToken, hdot]
      · simp [classify?, Arg.ofToken, hquote, hdot]

/-- The directive of a comment, if its body is not blank. -/
def directive? (source : Text) (c : Occurrence) : Option (Option Directive) := do
  let body ← body? source c
  match Token.all body with
  | [] => return none
  | name :: args =>
    let args ← args.mapM classify?
    let position ← Position.at? source c.start
    return some ⟨name, args, position, c.trimsLeft, c.trimsRight⟩

theorem mapM_classify? (tokens : List Text) :
    tokens.mapM classify? = some (tokens.map Arg.ofToken) := by
  induction tokens with
  | nil => rfl
  | cons token tokens ih =>
      rw [List.mapM_cons, classify?_eq, ih]
      rfl

/-- Reading a directive from its comment has a result. -/
theorem directive?_eq (before after : Text) (s : Span) :
    directive? (before ++ s.comment ++ after) (s.occurrence before.byteSize) =
      some (Directive.ofSpan? (Position.after before) s) := by
  have hposition : Position.at? (before ++ s.comment ++ after)
      (s.occurrence before.byteSize).start = some (Position.after before) := by
    rw [List.append_assoc]
    exact Position.at?_append before (s.comment ++ after)
  rw [directive?, body?_eq, Directive.ofSpan?, Option.bind_eq_bind, Option.bind_some]
  cases Token.all s.body with
  | nil => rfl
  | cons name args =>
      simp only [Option.bind_eq_bind, Option.bind_some, mapM_classify?, hposition]
      rfl

/-- The place of an opener without a closer is found from its offset. -/
theorem at?_of_unclosed? {p : Position} (h : (Layout.ofText source).unclosed? = some p) :
    Position.at? source p.offset = some p := by
  obtain ⟨before, rest, hsource, rfl⟩ := Layout.exists_of_unclosedFrom? (u := []) h
  obtain rfl : source = before ++ rest := (Layout.text_ofText source).symm.trans hsource
  rw [Position.offset_after]
  exact Position.at?_append before rest

end Offsets

end TwoWaySql

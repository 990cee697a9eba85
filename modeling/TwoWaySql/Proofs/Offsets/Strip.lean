import TwoWaySql.Proofs.Dummy.Strip
import TwoWaySql.Proofs.Offsets.Scan

/-!
# Stripping by offsets

Dummy literals are removed by copying slices: from where copying has come to, up to the end of each
comment, and then from behind the literal on. The literal is looked for in the slice up to the next
comment. Since a literal is a start of that slice, copying goes on at an offset in the gap, and all
slices exist. What is copied is the stripped text.

## Main definitions

* `Offsets.matchDummy?` — the dummy literal that a text starts with.
* `Offsets.strip?` — the stripped text and the literals that were left in place.
-/
namespace TwoWaySql.Offsets

variable {source t : Text} {shape : Shape} {len : Nat}

/-! ## Literals -/

/-- The offset where the literal of a shape at the start of a text ends. -/
def literalEnd? (t : Text) (shape : Shape) : Option Nat :=
  (shape.read? t).map fun (literal, _) => literal.byteSize

/-- The first of some shapes with a literal at the start of a text that a blank or the end
follows. -/
def matchAmong? (t : Text) : List Shape → Option (Option (Shape × Nat))
  | [] => some none
  | shape :: shapes =>
    match literalEnd? t shape with
    | none => matchAmong? t shapes
    | some len => do
      let behind ← t.slice? len t.byteSize
      if Shape.atBoundary behind then return some (shape, len) else matchAmong? t shapes

/-- The dummy literal that a text starts with. -/
def matchDummy? (t : Text) : Option (Option (Shape × Nat)) := matchAmong? t Shape.all

/-- The literal that a text starts with, whatever follows it. -/
def literalPrefix (t : Text) : Option (Shape × Nat) :=
  Shape.all.findSome? fun shape => (literalEnd? t shape).map fun len => (shape, len)

/-- A literal by its shape and its size. -/
def sized (literal : Literal) : Shape × Nat := (literal.shape, literal.text.byteSize)

theorem matchAmong?_eq (t : Text) (shapes : List Shape) :
    matchAmong? t shapes = some ((shapes.findSome? fun shape => (Literal.ofShape? t shape).filter
      fun literal => Shape.atBoundary literal.rest).map sized) := by
  induction shapes with
  | nil => rfl
  | cons shape shapes ih =>
      rw [matchAmong?, literalEnd?, List.findSome?_cons, Literal.ofShape?]
      cases hread : shape.read? t with
      | none => simpa using ih
      | some r =>
          obtain ⟨literal, rest⟩ := r
          obtain rfl := Shape.eq_append_of_read? hread
          simp only [Option.map_some, Text.slice?_rest literal rest rfl rfl, Option.bind_eq_bind,
            Option.bind_some, Option.filter_some]
          by_cases hboundary : Shape.atBoundary rest = true
          · simp only [hboundary, if_true]
            rfl
          · simp only [hboundary, Bool.false_eq_true, if_false]
            exact ih

/-- Looking for a dummy literal has a result. -/
theorem matchDummy?_eq (t : Text) : matchDummy? t = some ((Literal.dummy? t).map sized) :=
  matchAmong?_eq t Shape.all

theorem literalPrefix_eq (t : Text) : literalPrefix t = (Literal.starting? t).map sized := by
  have hshapes : ∀ shapes : List Shape,
      (shapes.findSome? fun shape => (literalEnd? t shape).map fun len => (shape, len)) =
        (shapes.findSome? (Literal.ofShape? t)).map sized := by
    intro shapes
    induction shapes with
    | nil => rfl
    | cons shape shapes ih =>
        rw [List.findSome?_cons, List.findSome?_cons, literalEnd?, Literal.ofShape?]
        cases shape.read? t with
        | none => exact ih
        | some r => rfl
  exact hshapes Shape.all

/-! ## The loop -/

/-- How much of the slice behind a comment is not copied, and the literal that is left in place. -/
def behind? (source : Text) (stop limit : Nat) : Option (Nat × Option Unstripped) := do
  let rest ← source.slice? stop limit
  match ← matchDummy? rest with
  | some (_, len) =>
    let _ ← rest.slice? 0 len
    return (len, none)
  | none =>
    match literalPrefix rest with
    | none => return (0, none)
    | some (shape, len) =>
      let literal ← rest.slice? 0 len
      let position ← Position.at? source stop
      return (0, some ⟨shape, literal, position⟩)

/-- The text without the dummy literals behind comments from an offset on, and the literals that
are left in place. -/
def stripFrom? (source : Text) (cursor : Nat) : List Occurrence → Option (Text × List Unstripped)
  | [] => (source.slice? cursor source.byteSize).map fun rest => (rest, [])
  | c :: cs => do
    let kept ← source.slice? cursor c.stop
    let limit := (cs.head?.map (·.start)).getD source.byteSize
    let (len, found?) ← behind? source c.stop limit
    let (out, found) ← stripFrom? source (c.stop + len) cs
    return (kept ++ out, found?.toList ++ found)

/-- The text without the dummy literals behind its comments, and the literals left in place. -/
def strip? (source : Text) : Option (Text × List Unstripped) := do
  let (cs, _) ← scan? source
  stripFrom? source 0 cs

theorem eq_append_of_starting? {literal : Literal} (h : Literal.starting? t = some literal) :
    t = literal.text ++ literal.rest := by
  obtain ⟨shape, -, hshape⟩ := List.exists_of_findSome?_eq_some h
  obtain ⟨⟨l, r⟩, hread, rfl⟩ := Option.map_eq_some_iff.1 hshape
  exact Shape.eq_append_of_read? hread

/-- What is looked at behind a comment is its gap. What is not copied of it is what stripping
removes, and a literal that stays is found at its place. -/
theorem exists_behind?_eq (before after : Text) (s : Span) : ∃ removed,
    s.gap = removed ++ s.strip.gap ∧
      behind? (before ++ s.comment ++ s.gap ++ after) (before ++ s.comment).byteSize
          (before ++ s.comment ++ s.gap).byteSize =
        some (removed.byteSize, s.unstripped? (Position.after before)) := by
  have hgap := Text.slice?_append (before ++ s.comment) s.gap after rfl rfl
  have hstart : ∀ {literal rest : Text}, s.gap = literal ++ rest →
      s.gap.slice? 0 literal.byteSize = some literal := by
    intro literal rest h
    rw [h]
    exact Text.slice?_append [] literal rest rfl rfl
  simp only [behind?, hgap, Option.bind_eq_bind, Option.bind_some, matchDummy?_eq,
    literalPrefix_eq, Span.strip, Span.unstripped?]
  cases hdummy : Literal.dummy? s.gap with
  | some literal =>
      have happend := Literal.eq_append_of_dummy? hdummy
      refine ⟨literal.text, happend, ?_⟩
      simp only [Option.map_some, sized, hstart happend, Option.bind_some]
      rfl
  | none =>
      refine ⟨[], rfl, ?_⟩
      cases hstarting : Literal.starting? s.gap with
      | none => rfl
      | some literal =>
          have hposition : Position.at? (before ++ s.comment ++ s.gap ++ after)
              (before ++ s.comment).byteSize =
                some ((Position.after before).advance s.comment) := by
            rw [List.append_assoc (before ++ s.comment), Position.at?_append,
              Position.advance_after]
          simp only [Option.map_none, Option.map_some, sized, hposition,
            hstart (eq_append_of_starting? hstarting), Option.bind_some]
          rfl

/-- The search for a literal ends with the gap, be there another comment or not. -/
theorem limit_occurrencesFrom (u gap : Text) (spans : List Span) :
    ((Layout.occurrencesFrom (.after u) ⟨gap, spans⟩).head?.map (·.start)).getD
      (u ++ Layout.text ⟨gap, spans⟩).byteSize = (u ++ gap).byteSize := by
  cases spans with
  | nil => simp [Layout.occurrencesFrom, Layout.locate, Layout.text]
  | cons s spans => simp [Layout.occurrencesFrom_cons, Span.occurrence]

/-- One round of copying: the text up to the end of the comment, and the literal that stays. It goes
on behind what stripping removes. -/
theorem exists_stripFrom?_cons (u lead : Text) (s : Span) (spans : List Span) : ∃ removed,
    s.gap = removed ++ s.strip.gap ∧
      stripFrom? (u ++ Layout.text ⟨lead, s :: spans⟩) u.byteSize
          (Layout.occurrencesFrom (.after u) ⟨lead, s :: spans⟩) =
        (stripFrom? (u ++ lead ++ s.comment ++ removed ++ Layout.text ⟨s.strip.gap, spans⟩)
          (u ++ lead ++ s.comment ++ removed).byteSize
          (Layout.occurrencesFrom (.after (u ++ lead ++ s.comment ++ removed))
            ⟨s.strip.gap, spans⟩)).map fun (out, found) =>
              (lead ++ s.comment ++ out,
                (s.unstripped? (Position.after (u ++ lead))).toList ++ found) := by
  obtain ⟨removed, hgap, hbehind⟩ := exists_behind?_eq (u ++ lead) (Layout.text ⟨[], spans⟩) s
  have hkept : (u ++ lead ++ s.comment ++ Layout.text ⟨s.gap, spans⟩).slice? u.byteSize
      (u ++ lead ++ s.comment).byteSize = some (lead ++ s.comment) := by
    have hpart := Text.slice?_append u (lead ++ s.comment) (Layout.text ⟨s.gap, spans⟩) rfl rfl
    simpa only [List.append_assoc] using hpart
  have hstop : (s.occurrence (u ++ lead).byteSize).stop = (u ++ lead ++ s.comment).byteSize := by
    rw [Span.occurrence, Text.byteSize_append (u ++ lead)]
  have hsource : u ++ lead ++ s.comment ++ s.gap ++ Layout.text ⟨[], spans⟩ =
      u ++ lead ++ s.comment ++ Layout.text ⟨s.gap, spans⟩ := by
    simp [Layout.text]
  have hsource' : u ++ lead ++ s.comment ++ removed ++ Layout.text ⟨s.strip.gap, spans⟩ =
      u ++ lead ++ s.comment ++ Layout.text ⟨s.gap, spans⟩ := by
    simp [Layout.text, hgap]
  have hcs : Layout.occurrencesFrom (.after (u ++ lead ++ s.comment ++ removed))
      ⟨s.strip.gap, spans⟩ = Layout.occurrencesFrom (.after (u ++ lead ++ s.comment))
        ⟨s.gap, spans⟩ := by
    simp only [Layout.occurrencesFrom, Position.advance_after, List.append_assoc, hgap]
  refine ⟨removed, hgap, ?_⟩
  rw [hsource] at hbehind
  rw [hsource', hcs, Layout.append_text_cons, Layout.occurrencesFrom_cons, Position.advance_after,
    Position.advance_after, Position.offset_after]
  simp only [stripFrom?, limit_occurrencesFrom, hstop, hkept, hbehind, Option.bind_eq_bind,
    Option.bind_some, ← Text.byteSize_append]
  cases stripFrom? _ _ _ <;> rfl

/-- Behind a prefix, copying goes through and leaves out what stripping removes. -/
theorem stripFrom?_append (u lead : Text) (spans : List Span) :
    stripFrom? (u ++ Layout.text ⟨lead, spans⟩) u.byteSize
        (Layout.occurrencesFrom (.after u) ⟨lead, spans⟩) =
      some ((Layout.strip ⟨lead, spans⟩).text,
        (Layout.locate (Position.after (u ++ lead)) spans).filterMap fun (p, s) =>
          s.unstripped? p) := by
  -- along the comments, the prefix growing up to where copying goes on
  induction spans generalizing u lead with
  | nil =>
      have hlead : Layout.text ⟨lead, []⟩ = lead := by simp [Layout.text]
      have hnone : Layout.occurrencesFrom (.after u) ⟨lead, []⟩ = [] := rfl
      rw [hlead, hnone, stripFrom?, Text.slice?_rest u lead rfl rfl]
      simp [Layout.strip, Layout.text, Layout.locate]
  | cons s spans ih =>
      obtain ⟨removed, hgap, hround⟩ := exists_stripFrom?_cons u lead s spans
      have htext : (Layout.strip ⟨lead, s :: spans⟩).text =
          lead ++ s.comment ++ (Layout.strip ⟨s.strip.gap, spans⟩).text := by
        simp [Layout.strip, Layout.text, Span.text, Span.comment]
      have hplace : u ++ lead ++ s.comment ++ removed ++ s.strip.gap = u ++ lead ++ s.text := by
        rw [List.append_assoc _ removed, ← hgap, Span.text, List.append_assoc]
      rw [hround, ih, htext, hplace, Layout.locate, Position.advance_after, List.filterMap_cons]
      cases hstays : s.unstripped? (Position.after (u ++ lead)) <;> simp [hstays]

/-- **Stripping by offsets** gives the stripped text and the literals that stay. -/
theorem strip?_eq (source : Text) : strip? source = some (strip source, unstripped source) := by
  have hstrip := stripFrom?_append [] (Layout.ofText source).lead (Layout.ofText source).spans
  rw [List.nil_append, List.nil_append, Layout.text_ofText] at hstrip
  rw [strip?, scan?_eq, Option.bind_eq_bind, Option.bind_some]
  exact hstrip

end TwoWaySql.Offsets

import TwoWaySql.Proofs.Record.Fields
import TwoWaySql.Proofs.Record.Instance
import TwoWaySql.Proofs.Record.Naming
import TwoWaySql.Proofs.Text.Quoted

/-!
# Reading generated code back

A generated file can be read line by line, and each line piece by piece: identifiers end where a
character stands that none of them has, quoted names say themselves where they end, and the fields
of a struct are the lines up to the brace. So the records are known from the file. It takes no
more than names without characters that do not belong in identifiers, and a template's record has
such names.

## Main definitions

* `Naming.inIdentifier` — the characters of identifiers.
* `Record.Legible` — records all of whose identifiers consist of such characters.
-/
namespace TwoWaySql

/-! ## Identifiers -/

namespace Naming

variable {c : Char} {t name ident stem suffix : Text}

/-- Whether a character occurs in identifiers, raw ones included. -/
def inIdentifier (c : Char) : Bool := c.isAlphanum || c == '_' || c == '#'

theorem inIdentifier_of_isAlphanum (h : c.isAlphanum = true) : inIdentifier c = true := by
  simp [inIdentifier, h]

theorem inIdentifier_of_isIdentifier (h : isIdentifier t = true) (hc : c ∈ t) :
    inIdentifier c = true := by
  cases t with
  | nil => cases hc
  | cons d t =>
      simp only [isIdentifier, Bool.and_eq_true, List.all_eq_true] at h
      rcases List.mem_cons.1 hc with rfl | hc
      · have hstart := h.1
        simp only [startsIdentifier, Bool.or_eq_true] at hstart
        rcases hstart with hletter | hunderscore
        · exact inIdentifier_of_isAlphanum (by simp [Char.isAlphanum, hletter])
        · simp [inIdentifier, hunderscore]
      · have hrest := h.2 c hc
        simp [inIdentifier, hrest]

theorem inIdentifier_of_mem_snake (hc : c ∈ snake name) : inIdentifier c = true := by
  rcases eq_or_isAlphanum_of_mem_snake hc with rfl | hc
  · rfl
  · exact inIdentifier_of_isAlphanum hc

theorem inIdentifier_of_mem_literal (h : t.all inIdentifier = true) (hc : c ∈ t) :
    inIdentifier c = true :=
  List.all_eq_true.1 h c hc

theorem inIdentifier_of_mem_constantName (hc : c ∈ constantName name) : inIdentifier c = true := by
  rcases List.mem_append.1 hc with hc | hc
  · obtain ⟨d, hd, rfl⟩ := List.mem_map.1 hc
    rcases eq_or_isAlphanum_of_mem_snake hd with rfl | hd
    · rfl
    · exact inIdentifier_of_isAlphanum ((isAlphanum_toUpper d).trans hd)
  · exact inIdentifier_of_mem_literal (by decide) hc

theorem inIdentifier_of_fieldIdentifier? (h : fieldIdentifier? name = some ident) (hc : c ∈ ident) :
    inIdentifier c = true := by
  simp only [fieldIdentifier?] at h
  split at h
  · cases h
  · split at h
    · cases h
      rcases List.mem_append.1 hc with hc | hc
      · exact inIdentifier_of_mem_snake hc
      · exact inIdentifier_of_mem_literal (by decide) hc
    · split at h
      · cases h
        rcases List.mem_append.1 hc with hc | hc
        · exact inIdentifier_of_mem_literal (by decide) hc
        · exact inIdentifier_of_mem_snake hc
      · cases h
        exact inIdentifier_of_mem_snake hc

end Naming

/-- Whether all identifiers of a record consist of characters of identifiers. Its template's file
and the names of its fields may be any texts. -/
structure Record.Legible (r : Record) : Prop where
  name : ∀ c ∈ r.name, Naming.inIdentifier c = true
  constName : ∀ c ∈ r.constName, Naming.inIdentifier c = true
  idents : ∀ f ∈ r.fields, ∀ c ∈ f.ident, Naming.inIdentifier c = true

/-- The record of a template has identifiers. -/
theorem Record.legible_of_ofTemplate {file stem source suffix : Text} {r : Record}
    {unknown : List UnknownDirective} (h : ofTemplate file stem source suffix = .ok (r, unknown)) :
    r.Legible := by
  obtain ⟨hname, -, hconst, extraction, -, hfields, -⟩ := ofTemplate_eq_ok_iff.1 h
  refine ⟨fun c hc => ?_, fun c hc => ?_, ?_⟩
  · exact Naming.inIdentifier_of_isIdentifier (Naming.isIdentifier_of_recordName? hname) hc
  · rw [hconst] at hc
    exact Naming.inIdentifier_of_mem_constantName hc
  · let hasIdents (fields : List RecordField) : Prop :=
      ∀ f ∈ fields, ∀ c ∈ f.ident, Naming.inIdentifier c = true
    have hnone : hasIdents [] := by simp [hasIdents]
    refine Outcome.invariant_of_foldlM (P := hasIdents) (fun fields f fields' hidents hadd => ?_)
      hnone hfields
    rcases addField_eq_ok hadd with ⟨-, rfl⟩ | ⟨ident, -, hident, -, rfl⟩
    · exact hidents
    · intro g hg
      rcases List.mem_append.1 hg with hg | hg
      · exact hidents g hg
      · obtain rfl := List.mem_singleton.1 hg
        exact fun c hc => Naming.inIdentifier_of_fieldIdentifier? hident hc

namespace Source

variable {options : SourceOptions} {f g : RecordField} {fs gs : List RecordField}
  {r r' : Record} {rs rs' : List Record} {c d : Char} {s t u v : Text} {ls ls' : List Text}

/-! ## Lines -/

/-- An identifier is known from a text that goes on with a character of no identifier. -/
theorem eq_of_identifier_append (hs : ∀ c ∈ s, Naming.inIdentifier c = true)
    (ht : ∀ c ∈ t, Naming.inIdentifier c = true) (hc : Naming.inIdentifier c = false)
    (hd : Naming.inIdentifier d = false) (h : s ++ c :: u = t ++ d :: v) :
    s = t ∧ c = d ∧ u = v :=
  Text.eq_of_append_cons hs ht (by simp [hc]) (by simp [hd]) h

theorem fieldLine_eq (f : RecordField) : fieldLine f =
    ("    pub " : Text) ++ (f.ident ++ ':' :: ' ' :: (f.type.rustType ++ [','])) := by
  unfold fieldLine
  simp

theorem lookupLine_eq (f : RecordField) : lookupLine f =
    ("            " : Text) ++ (f.name.quoted ++ (" => Some(" ++ valueExpression f ++ "),")) := by
  unfold lookupLine
  simp

theorem constantLine_eq (options : SourceOptions) (r : Record) : constantLine options r =
    ("const " : Text) ++ (r.constName ++ ':' :: (" &str = include_str!(" ++
      (Text.quoted (options.templatePath ++ r.templateFile) ++ ");"))) := by
  unfold constantLine
  simp

/-- A field's identifier and type are known from the line that declares it. -/
theorem fieldLine_inj (hf : ∀ c ∈ f.ident, Naming.inIdentifier c = true)
    (hg : ∀ c ∈ g.ident, Naming.inIdentifier c = true) (h : fieldLine f = fieldLine g) :
    f.ident = g.ident ∧ f.type = g.type := by
  rw [fieldLine_eq, fieldLine_eq] at h
  obtain ⟨hident, -, hrest⟩ := eq_of_identifier_append hf hg rfl rfl (List.append_cancel_left h)
  have htype := List.append_cancel_right (List.cons.inj hrest).2
  exact ⟨hident, FieldType.rustType_injective htype⟩

/-- A field's name is known from the line that looks it up. -/
theorem name_eq_of_lookupLine_eq (h : lookupLine f = lookupLine g) : f.name = g.name := by
  rw [lookupLine_eq, lookupLine_eq] at h
  exact (Text.quoted_append_inj (List.append_cancel_left h)).1

/-- The constant's name and the template's file are known from the line of the constant. -/
theorem constantLine_inj (hr : r.Legible) (hr' : r'.Legible)
    (h : constantLine options r = constantLine options r') :
    r.constName = r'.constName ∧ r.templateFile = r'.templateFile := by
  rw [constantLine_eq, constantLine_eq] at h
  obtain ⟨hconst, -, hpath⟩ :=
    eq_of_identifier_append hr.constName hr'.constName rfl rfl (List.append_cancel_left h)
  have hfile := (Text.quoted_append_inj (List.append_cancel_left hpath)).1
  exact ⟨hconst, List.append_cancel_left hfile⟩

/-- A field is known from the line that declares it and the line that looks it up. -/
theorem field_inj (hf : ∀ c ∈ f.ident, Naming.inIdentifier c = true)
    (hg : ∀ c ∈ g.ident, Naming.inIdentifier c = true) (hfield : fieldLine f = fieldLine g)
    (hlookup : lookupLine f = lookupLine g) : f = g := by
  obtain ⟨hident, htype⟩ := fieldLine_inj hf hg hfield
  have hname := name_eq_of_lookupLine_eq hlookup
  cases f
  cases g
  simp_all only

/-! ## Blocks of lines -/

/-- The fields are known from the lines that declare them and the lines that look them up. -/
theorem fields_inj (hfs : ∀ f ∈ fs, ∀ c ∈ f.ident, Naming.inIdentifier c = true)
    (hgs : ∀ g ∈ gs, ∀ c ∈ g.ident, Naming.inIdentifier c = true)
    (hfields : fs.map fieldLine = gs.map fieldLine)
    (hlookups : fs.map lookupLine = gs.map lookupLine) : fs = gs := by
  induction fs generalizing gs with
  | nil => exact (List.map_eq_nil_iff.1 hfields.symm).symm
  | cons f fs ih =>
      cases gs with
      | nil => cases hfields
      | cons g gs =>
          obtain ⟨hfield, hfields⟩ := List.cons.inj hfields
          obtain ⟨hlookup, hlookups⟩ := List.cons.inj hlookups
          rw [field_inj (hfs f List.mem_cons_self) (hgs g List.mem_cons_self) hfield hlookup,
            ih (fun f hf => hfs f (List.mem_cons_of_mem _ hf))
              (fun g hg => hgs g (List.mem_cons_of_mem _ hg)) hfields hlookups]

/-- The brace behind the fields is told from their lines. -/
theorem ne_closing_of_mem_map {l : Text} (hl : l ∈ fs.map fieldLine) : l ≠ closing := by
  obtain ⟨f, -, rfl⟩ := List.mem_map.1 hl
  rw [fieldLine_eq]
  intro h
  cases h

theorem structLines_of_nil (h : r.fields = []) : structLines r =
    "#[derive(Debug, Clone, Default, PartialEq)]".toList ::
      ("pub struct ".toList ++ (r.name ++ [';'])) :: [] := by
  unfold structLines
  simp [h]

theorem structLines_of_cons (h : r.fields = f :: fs) : structLines r =
    "#[derive(Debug, Clone, Default, PartialEq)]".toList ::
      ("pub struct ".toList ++ (r.name ++ [' ', '{'])) ::
        (r.fields.map fieldLine ++ [closing]) := by
  unfold structLines opening
  simp [h]

/-- The name of a struct and the lines of its fields are known from the lines of the struct. -/
theorem structLines_append_inj (hr : r.Legible) (hr' : r'.Legible)
    (h : structLines r ++ ls = structLines r' ++ ls') :
    r.name = r'.name ∧ r.fields.map fieldLine = r'.fields.map fieldLine ∧ ls = ls' := by
  have hname : ∀ (c d : Char) {u v : Text}, Naming.inIdentifier c = false →
      Naming.inIdentifier d = false →
      "pub struct ".toList ++ (r.name ++ c :: u) = "pub struct ".toList ++ (r'.name ++ d :: v) →
        r.name = r'.name ∧ c = d := by
    intro c d u v hc hd heq
    obtain ⟨hname, hcd, -⟩ :=
      eq_of_identifier_append hr.name hr'.name hc hd (List.append_cancel_left heq)
    exact ⟨hname, hcd⟩
  cases hfields : r.fields with
  | nil =>
      rw [structLines_of_nil hfields] at h
      cases hfields' : r'.fields with
      | nil =>
          rw [structLines_of_nil hfields'] at h
          obtain ⟨hline, hrest⟩ := List.cons.inj (List.cons.inj h).2
          exact ⟨(hname ';' ';' rfl rfl hline).1, rfl, hrest⟩
      | cons g gs =>
          rw [structLines_of_cons hfields'] at h
          obtain ⟨hline, -⟩ := List.cons.inj (List.cons.inj h).2
          exact absurd (hname ';' ' ' rfl rfl hline).2 (by decide)
  | cons f fs =>
      rw [structLines_of_cons hfields] at h
      cases hfields' : r'.fields with
      | nil =>
          rw [structLines_of_nil hfields'] at h
          obtain ⟨hline, -⟩ := List.cons.inj (List.cons.inj h).2
          exact absurd (hname ' ' ';' rfl rfl hline).2 (by decide)
      | cons g gs =>
          rw [structLines_of_cons hfields'] at h
          simp only [List.cons_append, List.append_assoc, List.nil_append] at h
          obtain ⟨hline, hrest⟩ := List.cons.inj (List.cons.inj h).2
          obtain ⟨hsame, -, hafter⟩ :=
            Text.eq_of_append_cons (P := (· ≠ closing)) (fun _ => ne_closing_of_mem_map)
              (fun _ => ne_closing_of_mem_map) (by simp) (by simp) hrest
          rw [← hfields, ← hfields']
          exact ⟨(hname ' ' ' ' rfl rfl hline).1, hsame, hafter⟩

/-- The lines that look fields up are known from the function, the number of fields being given. -/
theorem lookupLines_append_inj (hlength : r.fields.length = r'.fields.length)
    (h : lookupLines r ++ ls = lookupLines r' ++ ls') :
    r.fields.map lookupLine = r'.fields.map lookupLine := by
  cases hfields : r.fields with
  | nil =>
      have hfields' : r'.fields = [] := by simpa [hfields] using hlength.symm
      rw [hfields']
  | cons f fs =>
      cases hfields' : r'.fields with
      | nil => simp [hfields, hfields'] at hlength
      | cons g gs =>
          unfold lookupLines at h
          simp only [hfields, hfields', List.append_assoc] at h
          refine (List.append_inj (List.append_cancel_left h) ?_).1
          rwa [hfields, hfields', ← List.length_map lookupLine, ← List.length_map lookupLine]
            at hlength

/-- A record is known from its lines at the start of some, and so is what follows them. -/
theorem recordLines_append_inj (hr : r.Legible) (hr' : r'.Legible)
    (h : recordLines options r ++ ls = recordLines options r' ++ ls') : r = r' ∧ ls = ls' := by
  have hsame : r = r' := by
    unfold recordLines at h
    simp only [List.append_assoc, List.cons_append, List.nil_append] at h
    obtain ⟨hconstant, hrest⟩ := List.cons.inj h
    obtain ⟨hconst, hfile⟩ := constantLine_inj hr hr' hconstant
    obtain ⟨hname, hfields, hrest⟩ := structLines_append_inj hr hr' (List.cons.inj hrest).2
    have hlength : r.fields.length = r'.fields.length := by
      simpa using congrArg List.length hfields
    have hlookups := lookupLines_append_inj hlength (List.cons.inj (List.cons.inj hrest).2).2
    have hfields := fields_inj hr.idents hr'.idents hfields hlookups
    cases r
    cases r'
    simp_all only
  rw [hsame] at h
  exact ⟨hsame, List.append_cancel_left h⟩

/-! ## Line breaks -/

theorem newline_not_mem_of_identifier (h : ∀ c ∈ t, Naming.inIdentifier c = true) : '\n' ∉ t :=
  fun hmem => absurd (h _ hmem) (by decide)

@[simp] theorem newline_mem_opening_iff : '\n' ∈ opening t ↔ '\n' ∈ t := by
  simp [opening]

theorem newline_not_mem_fieldLine (hf : '\n' ∉ f.ident) : '\n' ∉ fieldLine f := by
  have htype : '\n' ∉ f.type.rustType := by cases f.type <;> decide
  simp [fieldLine_eq, hf, htype]

theorem newline_not_mem_lookupLine (hf : '\n' ∉ f.ident) : '\n' ∉ lookupLine f := by
  have hvalue : '\n' ∉ valueExpression f := by
    rw [valueExpression]
    cases f.type <;> simp [hf]
  simp [lookupLine_eq, hvalue, Text.newline_not_mem_quoted]

theorem newline_not_mem_constantLine (hr : '\n' ∉ r.constName) :
    '\n' ∉ constantLine options r := by
  simp [constantLine_eq, hr, Text.newline_not_mem_quoted]

theorem newline_not_mem_structLines (hname : '\n' ∉ r.name)
    (hidents : ∀ f ∈ r.fields, '\n' ∉ f.ident) : ∀ l ∈ structLines r, '\n' ∉ l := by
  have hfields : ∀ f ∈ r.fields, '\n' ∉ fieldLine f :=
    fun f hf => newline_not_mem_fieldLine (hidents f hf)
  cases hfs : r.fields with
  | nil => simp [structLines_of_nil hfs, hname]
  | cons f fs =>
      rw [structLines_of_cons hfs, List.forall_mem_cons, List.forall_mem_cons,
        List.forall_mem_append, List.forall_mem_map]
      exact ⟨by decide, by simp [hname], hfields, by decide⟩

theorem newline_not_mem_lookupLines (hidents : ∀ f ∈ r.fields, '\n' ∉ f.ident) :
    ∀ l ∈ lookupLines r, '\n' ∉ l := by
  have hlookups : ∀ f ∈ r.fields, '\n' ∉ lookupLine f :=
    fun f hf => newline_not_mem_lookupLine (hidents f hf)
  unfold lookupLines
  cases hfs : r.fields with
  | nil => decide
  | cons f fs =>
      rw [List.forall_mem_append, List.forall_mem_append, List.forall_mem_map, ← hfs]
      exact ⟨⟨by decide, hlookups⟩, by decide⟩

theorem newline_not_mem_queryLines {style : PlaceholderStyle} (hname : '\n' ∉ r.name)
    (hconst : '\n' ∉ r.constName) : ∀ l ∈ queryLines style r, '\n' ∉ l := by
  unfold queryLines
  cases style <;> simp [styleLines, closing, closingFunction, hname, hconst]

/-- The lines of a legible record are lines. -/
theorem newline_not_mem_recordLines (hr : r.Legible) : ∀ l ∈ recordLines options r, '\n' ∉ l := by
  have hname := newline_not_mem_of_identifier hr.name
  have hconst := newline_not_mem_of_identifier hr.constName
  have hidents : ∀ f ∈ r.fields, '\n' ∉ f.ident :=
    fun f hf => newline_not_mem_of_identifier (hr.idents f hf)
  unfold recordLines
  simp only [List.forall_mem_append]
  refine ⟨⟨⟨⟨⟨?_, newline_not_mem_structLines hname hidents⟩, ?_⟩,
    newline_not_mem_lookupLines hidents⟩, by decide⟩, newline_not_mem_queryLines hname hconst⟩
  · simp [newline_not_mem_constantLine hconst]
  · simp [hname]

/-! ## Files -/

/-- The lines of several records. -/
theorem flatMap_ofRecord (options : SourceOptions) (rs : List Record) :
    (rs.flatMap fun r => Text.lines [""] ++ ofRecord options r) =
      Text.lines (rs.flatMap fun r => [] :: recordLines options r) := by
  simp [Text.lines, ofRecord, List.flatMap_assoc]

theorem flatMap_recordLines_inj (hrs : ∀ r ∈ rs, r.Legible) (hrs' : ∀ r ∈ rs', r.Legible)
    (h : (rs.flatMap fun r => [] :: recordLines options r) =
      rs'.flatMap fun r => [] :: recordLines options r) : rs = rs' := by
  induction rs generalizing rs' with
  | nil => cases rs' <;> simp_all
  | cons r rs ih =>
      cases rs' with
      | nil => simp at h
      | cons r' rs' =>
          obtain ⟨rfl, hrest⟩ := recordLines_append_inj (hrs r List.mem_cons_self)
            (hrs' r' List.mem_cons_self) (List.cons.inj h).2
          rw [ih (fun r hr => hrs r (List.mem_cons_of_mem _ hr))
            (fun r hr => hrs' r (List.mem_cons_of_mem _ hr)) hrest]

/-- Legible records are known from the file that is generated for them. -/
theorem ofRecords_inj (hrs : ∀ r ∈ rs, r.Legible) (hrs' : ∀ r ∈ rs', r.Legible)
    (h : ofRecords options rs = ofRecords options rs') : rs = rs' := by
  have hlines : ∀ {rs : List Record}, (∀ r ∈ rs, r.Legible) →
      ∀ l ∈ rs.flatMap fun r => [] :: recordLines options r, '\n' ∉ l := by
    intro rs hrs l hl
    obtain ⟨r, hr, hl⟩ := List.mem_flatMap.1 hl
    rcases List.mem_cons.1 hl with rfl | hl
    · simp
    · exact newline_not_mem_recordLines (hrs r hr) l hl
  simp only [ofRecords] at h
  have hrest := List.append_cancel_left h
  cases rs with
  | nil =>
      cases rs' with
      | nil => rfl
      | cons r' rs' => simp [Text.lines] at hrest
  | cons r rs =>
      cases rs' with
      | nil => simp [Text.lines] at hrest
      | cons r' rs' =>
          have hbodies := List.append_cancel_left hrest
          rw [flatMap_ofRecord, flatMap_ofRecord] at hbodies
          exact flatMap_recordLines_inj hrs hrs'
            (Text.lines_inj (hlines hrs) (hlines hrs') hbodies)

end Source

end TwoWaySql

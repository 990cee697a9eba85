import TwoWaySql.Proofs.Query.Reads
import TwoWaySql.Proofs.Record.Fields
import TwoWaySql.Record.Source

/-!
# Instances of records

A record is generated as a struct with a member for each field and a function that looks a field
up. An instance gives each member a value of its Rust type; the function evaluates the expression
that is generated for the field. The expressions, the types of the members and the types that
directives ask for belong together: an instance never lacks a field, and the only value of a wrong
type that it can have is a list in a field for scalars.

## Main definitions

* `Source.RustValue`, `Source.Expression` — values of members, and the expressions over them.
* `Record.Instance`, `Record.Instance.field` — an instance of a record and its look-up function.
-/
namespace TwoWaySql

theorem FieldType.rustType_injective : Function.Injective rustType := by
  intro s t h
  cases s <;> cases t <;> first | rfl | exact absurd h (by decide)

namespace Source

/-- A value of a member of a generated struct. -/
inductive RustValue where
  | string (t : Text)
  | integer (i : Int64)
  | float (x : Binary64)
  | boolean (b : Bool)
  | value (v : Value)
  | list (items : List Value)

namespace RustValue

/-- The Rust type of a value. -/
def type : RustValue → Text
  | string _ => "String"
  | integer _ => "i64"
  | float _ => "f64"
  | boolean _ => "bool"
  | value _ => "Value"
  | list _ => "Vec<Value>"

/-- What a value of a member is as a value of a field. -/
def toValue : RustValue → Value
  | string t => .string t
  | integer i => .int i
  | float x => .float x
  | boolean b => .bool b
  | value v => v
  | list items => .list items

/-- The type of the fields that have such members. -/
def fieldType : RustValue → FieldType
  | string _ => .string
  | integer _ => .integer
  | float _ => .float
  | boolean _ => .boolean
  | value _ => .scalar
  | list _ => .list

theorem fieldType_eq_iff {x : RustValue} {type : FieldType} :
    x.type = type.rustType ↔ x.fieldType = type := by
  have htype : x.type = x.fieldType.rustType := by cases x <;> rfl
  rw [htype]
  exact FieldType.rustType_injective.eq_iff

/-- A value of the Rust type of a field does where the type of the field is asked for, except for
a list in a field for scalars. -/
theorem accepts_toValue {x : RustValue} {type : FieldType} (h : x.type = type.rustType) :
    type.accepts x.toValue = true ∨ type = .scalar ∧ ∃ items, x.toValue = .list items := by
  obtain rfl := fieldType_eq_iff.1 h
  cases x with
  | value v =>
      cases v with
      | list items => exact .inr ⟨rfl, items, rfl⟩
      | _ => exact .inl rfl
  | _ => exact .inl rfl

end RustValue

/-- The constructors of values in generated code. -/
inductive Variant where
  | string
  | integer
  | float
  | boolean
  | list

namespace Variant

/-- The name of the constructor. -/
def name : Variant → Text
  | string => "String"
  | integer => "Int"
  | float => "Float"
  | boolean => "Bool"
  | list => "List"

/-- The constructed value, if the argument has the right type. -/
def make? : Variant → RustValue → Option RustValue
  | string, .string t => some (.value (.string t))
  | integer, .integer i => some (.value (.int i))
  | float, .float x => some (.value (.float x))
  | boolean, .boolean b => some (.value (.bool b))
  | list, .list items => some (.value (.list items))
  | _, _ => none

end Variant

/-- An expression over the members of a struct. -/
inductive Expression where
  /-- The value of a member. -/
  | member (ident : Text)
  /-- A copy of a value. -/
  | clone (e : Expression)
  /-- A value made by a constructor. -/
  | construct (variant : Variant) (e : Expression)

namespace Expression

/-- The expression as it is written. -/
def text : Expression → Text
  | member ident => "self." ++ ident
  | clone e => e.text ++ ".clone()"
  | construct variant e => "Value::" ++ variant.name ++ "(" ++ e.text ++ ")"

theorem text_member (ident : Text) : (member ident).text = "self." ++ ident := rfl

theorem text_clone (e : Expression) : (clone e).text = e.text ++ ".clone()" := rfl

theorem text_construct (variant : Variant) (e : Expression) :
    (construct variant e).text = "Value::" ++ variant.name ++ "(" ++ e.text ++ ")" := rfl

/-- The value of the expression, if it is well typed. -/
def eval? (self : Text → RustValue) : Expression → Option RustValue
  | member ident => some (self ident)
  | clone e => e.eval? self
  | construct variant e => (e.eval? self).bind variant.make?

/-- The expression that makes a value of a field. -/
def ofField (f : RecordField) : Expression :=
  match f.type with
  | .string => construct .string (clone (member f.ident))
  | .integer => construct .integer (member f.ident)
  | .float => construct .float (member f.ident)
  | .boolean => construct .boolean (member f.ident)
  | .scalar => clone (member f.ident)
  | .list => construct .list (clone (member f.ident))

theorem text_construct_member (variant : Variant) (ident : Text) :
    (construct variant (member ident)).text =
      ("Value::" ++ variant.name ++ "(" ++ "self.") ++ ident ++ ")" := by
  rw [text_construct, text_member]
  simp only [List.append_assoc]

theorem text_construct_clone_member (variant : Variant) (ident : Text) :
    (construct variant (clone (member ident))).text =
      ("Value::" ++ variant.name ++ "(" ++ "self.") ++ ident ++ (".clone()" ++ ")") := by
  rw [text_construct, text_clone, text_member]
  simp only [List.append_assoc]

/-- It is the one that is generated. -/
theorem text_ofField (f : RecordField) : (ofField f).text = valueExpression f := by
  rw [ofField, valueExpression]
  cases f.type with
  | string => exact text_construct_clone_member .string f.ident
  | integer => exact text_construct_member .integer f.ident
  | float => exact text_construct_member .float f.ident
  | boolean => exact text_construct_member .boolean f.ident
  | scalar => rfl
  | list => exact text_construct_clone_member .list f.ident

/-- The generated expression is well typed, and gives the value of the member. -/
theorem eval?_ofField {f : RecordField} {self : Text → RustValue}
    (h : (self f.ident).type = f.type.rustType) :
    (ofField f).eval? self = some (.value (self f.ident).toValue) := by
  have htype := RustValue.fieldType_eq_iff.1 h
  rw [ofField, ← htype]
  cases hx : self f.ident <;> simp only [RustValue.fieldType, eval?, hx] <;> rfl

end Expression

end Source

/-- Only `param` asks for a scalar. -/
theorem Keyword.eq_param_of_signature {k : Keyword} {n : Nat} {role : Role}
    (h : k.signature[n]? = some (role, .scalar)) : k = .param := by
  have hmem := List.mem_of_getElem? h
  cases k <;> simp [signature] at hmem
  rfl

namespace Record

/-- An instance of the struct that is generated for a record. -/
structure Instance (r : Record) where
  /-- The values of the members. -/
  member : Text → Source.RustValue
  /-- Every member has a value of its type. -/
  typed : ∀ f ∈ r.fields, (member f.ident).type = f.type.rustType

namespace Instance

variable {r : Record} (i : r.Instance)

/-- The generated look-up function: the first field of a name has the value of its expression. -/
def field : Data := fun name =>
  match r.fields.find? (·.name = name) with
  | none => none
  | some f =>
    match (Source.Expression.ofField f).eval? i.member with
    | some (.value v) => some v
    | _ => none

/-- A field of the record has the value of its member, and no other name has one. -/
theorem field_eq_some_iff {name : Text} {v : Value} : i.field name = some v ↔
    ∃ f, r.fields.find? (·.name = name) = some f ∧ v = (i.member f.ident).toValue := by
  rw [field]
  cases hfind : r.fields.find? (·.name = name) with
  | none => simp
  | some f =>
      have htyped := i.typed f (List.mem_of_find?_eq_some hfind)
      simp only [Source.Expression.eval?_ofField htyped, Option.some.injEq, exists_eq_left']
      exact eq_comm

/-- Values of the right types for the fields of a template's record make an instance. -/
theorem exists_instance {file stem source suffix : Text} {r : Record}
    {unknown : List UnknownDirective} (h : ofTemplate file stem source suffix = .ok (r, unknown))
    (value : RecordField → Source.RustValue)
    (hvalue : ∀ f ∈ r.fields, (value f).type = f.type.rustType) :
    ∃ i : r.Instance, ∀ f ∈ r.fields, i.field f.name = some (value f).toValue := by
  obtain ⟨extraction, -, hfields⟩ := ofTemplate_eq_ok h
  have hdistinct := distinct_of_foldlM hfields
  let member (ident : Text) : Source.RustValue :=
    ((r.fields.find? (·.ident = ident)).map value).getD (.boolean false)
  have hmember : ∀ f ∈ r.fields, member f.ident = value f := by
    intro f hf
    simp only [member, hdistinct.find?_ident hf, Option.map_some, Option.getD_some]
  refine ⟨⟨member, fun f hf => ?_⟩, fun f hf => ?_⟩
  · rw [hmember f hf]
    exact hvalue f hf
  · rw [field_eq_some_iff]
    have hvalue' := congrArg Source.RustValue.toValue (hmember f hf).symm
    exact ⟨f, hdistinct.find?_name hf, hvalue'⟩

/-- The arguments that can have a value of the wrong type in an instance: those that are written
in the template, and a field for scalars that holds a list and is to be bound. -/
def CanMismatch (k : Keyword) (arg : Arg) : Prop :=
  (∃ t, arg = .quoted t ∨ arg = .bare t) ∨
    k = .param ∧ ∃ f ∈ r.fields, arg = .field f.name ∧ f.type = .scalar ∧
      ∃ items, i.field f.name = some (.list items)

/-- A field that the record supplies is at fault only if it is one for scalars, holds a list and is
to be bound. -/
theorem canMismatch_of_fault? {name : Text} {type : FieldType}
    (h : Supplies r.fields ⟨name, type⟩) {k : Keyword} {n : Nat} {role : Role}
    (hn : k.signature[n]? = some (role, type)) {position : Position} {e : CompileError}
    (he : (Arg.field name).fault? i.field position k (n + 1) type = some e) :
    i.CanMismatch k (.field name) ∧ ∃ found, e = .typeMismatch k (n + 1) type found position := by
  obtain ⟨f, hfind, htype⟩ := h
  have hf : f ∈ r.fields := List.mem_of_find?_eq_some hfind
  have hname : f.name = name := by simpa using List.find?_some hfind
  have hfield : i.field name = some (i.member f.ident).toValue :=
    i.field_eq_some_iff.2 ⟨f, hfind, rfl⟩
  have hresolve : (Arg.field name).resolve i.field position =
      .ok (i.member f.ident).toValue := by
    simp only [Arg.resolve, hfield]
  rcases (Arg.fault?_eq_some_iff ..).1 he with herror | ⟨v, hv, hrefused, hmismatch⟩
  · rw [hresolve] at herror
    cases herror
  · rw [hresolve] at hv
    cases hv
    refine ⟨.inr ?_, _, hmismatch⟩
    rcases Source.RustValue.accepts_toValue (i.typed f hf) with haccepts | ⟨hscalar, items, hlist⟩
    · simp only [htype] at haccepts
      rw [haccepts] at hrefused
      cases hrefused
    · have htype' : type = .scalar := htype.symm.trans hscalar
      rw [htype'] at hn
      refine ⟨Keyword.eq_param_of_signature hn, f, hf, by rw [hname], hscalar, items, ?_⟩
      rw [hname, hfield, hlist]

end Instance

end Record

namespace Query

/-- An error that comes up with an instance is one of the template as it stands, or is caused by
an argument that is no field of the record, or by a list in a field for scalars. -/
theorem structural_or_argument_of_build {file stem template suffix : Text} {r : Record}
    {unknown : List UnknownDirective}
    (h : Record.ofTemplate file stem template suffix = .ok (r, unknown)) (i : r.Instance)
    {style : PlaceholderStyle} {e : CompileError}
    (he : build style template i.field = .error e) :
    e.structural = true ∨
      ∃ d ∈ Directive.all (strip template), ∃ (k : Keyword) (n : Nat) (arg : Arg),
        d.keyword? = some k ∧ d.args[n]? = some arg ∧
          ((∃ t, arg = .bare t ∧ e = .notLiteral t d.position) ∨
            i.CanMismatch k arg ∧
              ∃ type found, e = .typeMismatch k (n + 1) type found d.position) := by
  obtain ⟨extraction, hextraction, hfields⟩ := Record.ofTemplate_eq_ok h
  rcases ofText?_or_fault?_of_compile he with hnodes | ⟨d, hd, k, hk, hfault⟩
  · exact .inl (Node.structural_of_ofText? hnodes)
  · obtain ⟨n, role, type, arg, hn, harg, hargfault⟩ := Keyword.exists_arg_of_fault? hfault
    refine .inr ⟨d, hd, k, n, arg, hk, harg, ?_⟩
    cases arg with
    | field name =>
        have hmem : ⟨name, type⟩ ∈ k.typedFields d.args :=
          Keyword.mem_typedFields.2 ⟨n, role, hn, harg⟩
        have hlisted := Extraction.mem_fields_of_strip hextraction hd hk hmem
        obtain ⟨hcan, found, hmismatch⟩ :=
          i.canMismatch_of_fault? (Record.supplies_of_foldlM hfields hlisted) hn hargfault
        exact .inr ⟨hcan, type, found, hmismatch⟩
    | quoted t =>
        rcases (Arg.fault?_eq_some_iff ..).1 hargfault with herror | ⟨v, -, -, hmismatch⟩
        · cases herror
        · exact .inr ⟨.inl ⟨t, .inl rfl⟩, type, v.typeWord, hmismatch⟩
    | bare t =>
        rcases (Arg.fault?_eq_some_iff ..).1 hargfault with herror | ⟨v, -, -, hmismatch⟩
        · rcases (Arg.resolve_eq_error_iff ..).1 herror with ⟨_, hfield, -⟩ | ⟨t', hbare, -, heq⟩
          · cases hfield
          · exact .inl ⟨t', hbare, heq⟩
        · exact .inr ⟨.inl ⟨t, .inr rfl⟩, type, v.typeWord, hmismatch⟩

/-- **Instances of records fit their templates.** If a template has a record, then in every style
and with every instance of the record no field is missing; an argument has a value of the wrong
type only if it is written in the template, or is a field for scalars that holds a list and is to
be bound; and if all arguments are fields and no field for scalars holds a list, then whatever is
wrong is wrong with the template as it stands. -/
theorem build_of_instance {file stem template suffix : Text} {r : Record}
    {unknown : List UnknownDirective}
    (h : Record.ofTemplate file stem template suffix = .ok (r, unknown)) (i : r.Instance)
    (style : PlaceholderStyle) :
    (∀ name position,
      build style template i.field ≠ .error (.unresolvedField name position)) ∧
    (∀ k index type found position,
      build style template i.field = .error (.typeMismatch k index type found position) →
        ∃ d ∈ Directive.all (strip template), d.position = position ∧ d.keyword? = some k ∧
          ∃ n arg, index = n + 1 ∧ d.args[n]? = some arg ∧ i.CanMismatch k arg) ∧
    ((∀ d ∈ Directive.all template, ∀ k, d.keyword? = some k →
        ∀ arg ∈ d.args, ∃ name, arg = .field name) →
      (∀ f ∈ r.fields, f.type = .scalar → ∀ items, i.field f.name ≠ some (.list items)) →
      ∀ e, build style template i.field = .error e → e.structural = true) := by
  refine ⟨?_, ?_, ?_⟩
  · intro name position he
    rcases structural_or_argument_of_build h i he with hstructural |
      ⟨d, -, k, n, arg, -, -, ⟨t, -, heq⟩ | ⟨-, type, found, heq⟩⟩
    · cases hstructural
    · cases heq
    · cases heq
  · intro k index type found position he
    rcases structural_or_argument_of_build h i he with hstructural |
      ⟨d, hd, k', n, arg, hk, harg, ⟨t, -, heq⟩ | ⟨hcan, type', found', heq⟩⟩
    · cases hstructural
    · cases heq
    · cases heq
      exact ⟨d, hd, rfl, hk, n, arg, rfl, harg, hcan⟩
  · intro hfields hlists e he
    rcases structural_or_argument_of_build h i he with hstructural |
      ⟨d, hd, k, n, arg, hk, harg, hcause⟩
    · exact hstructural
    · obtain ⟨d', hd', hkeyword, hargs⟩ := Directive.exists_mem_all_of_strip hd
      have hmem : arg ∈ d'.args := by
        rw [hargs]
        exact List.mem_of_getElem? harg
      obtain ⟨name, rfl⟩ := hfields d' hd' k (hkeyword.trans hk) arg hmem
      rcases hcause with ⟨t, hbare, -⟩ | ⟨⟨t, hquoted | hbare⟩ | ⟨-, f, hf, -, hscalar, items, hlist⟩, -⟩
      · cases hbare
      · cases hquoted
      · cases hbare
      · exact absurd hlist (hlists f hf hscalar items)

private def boundTemplate : Text := "SELECT /** int .N **/1 , /** param .P **/2"

private def boundRecord : Record :=
  ⟨"PageQuery", "page.sql", "PAGE_QUERY_SQL", [⟨"N", "n", .integer⟩, ⟨"P", "p", .scalar⟩]⟩

private def boundInstance (p : Value) : boundRecord.Instance where
  member ident := if ident = "n" then .integer 7 else .value p
  typed := by
    intro f hf
    rcases List.mem_cons.1 hf with rfl | hf
    · rfl
    · rw [List.mem_singleton.1 hf]
      rfl

/-- An instance whose query is built, and one that has a list in a field for scalars. -/
theorem build_of_instance_bound :
    Record.ofTemplate "page.sql" "page" boundTemplate "Query" = .ok (boundRecord, []) ∧
      (build .dollar boundTemplate (boundInstance .null).field).map sql =
        .ok "SELECT $1 , $2" ∧
      (∀ e, build .question boundTemplate (boundInstance .null).field = .error e →
        e.structural = true) ∧
      build .dollar boundTemplate (boundInstance (.list [])).field =
        .error (.typeMismatch .param 1 .scalar "list" ⟨24, 1, 25⟩) ∧
      ∃ d ∈ Directive.all (strip boundTemplate), d.position = ⟨24, 1, 25⟩ ∧
        d.keyword? = some .param ∧ ∃ n arg, 1 = n + 1 ∧ d.args[n]? = some arg ∧
          (boundInstance (.list [])).CanMismatch .param arg := by
  have hrecord : Record.ofTemplate "page.sql" "page" boundTemplate "Query" =
      .ok (boundRecord, []) := by decide +kernel
  have hquery : (build .dollar boundTemplate (boundInstance .null).field).map sql =
      .ok "SELECT $1 , $2" := by decide +kernel
  have herror : build .dollar boundTemplate (boundInstance (.list [])).field =
      .error (.typeMismatch .param 1 .scalar "list" ⟨24, 1, 25⟩) := by
    rw [← Outcome.map_eq_error (f := sql)]
    decide +kernel
  have hargs : (Directive.all boundTemplate).map Directive.args =
      [[.field "N"], [.field "P"]] := by decide +kernel
  have hfields : ∀ d ∈ Directive.all boundTemplate, ∀ k, d.keyword? = some k →
      ∀ arg ∈ d.args, ∃ name, arg = .field name := by
    intro d hd k _ arg harg
    have hmem : d.args ∈ (Directive.all boundTemplate).map Directive.args :=
      List.mem_map_of_mem hd
    rw [hargs] at hmem
    rcases List.mem_cons.1 hmem with heq | hmem
    · rw [heq] at harg
      exact ⟨"N", List.mem_singleton.1 harg⟩
    · rw [List.mem_singleton.1 hmem] at harg
      exact ⟨"P", List.mem_singleton.1 harg⟩
  have hlists : ∀ f ∈ boundRecord.fields, f.type = .scalar →
      ∀ items, (boundInstance .null).field f.name ≠ some (.list items) := by
    intro f hf hscalar items
    rcases List.mem_cons.1 hf with rfl | hf
    · cases hscalar
    · rw [List.mem_singleton.1 hf]
      intro hlist
      cases hlist
  have hstructural := (build_of_instance hrecord (boundInstance .null) .question).2.2 hfields hlists
  have hmismatch := (build_of_instance hrecord (boundInstance (.list [])) .dollar).2.1
    .param 1 .scalar "list" ⟨24, 1, 25⟩ herror
  exact ⟨hrecord, hquery, hstructural, herror, hmismatch⟩

end Query

end TwoWaySql

import TwoWaySql.Directive.Basic

/-!
# Extraction

The fields that a template asks for are read off its directives, in order and with repetitions.
Directives that the catalog does not have are listed beside them.
-/
namespace TwoWaySql

/-- A directive whose keyword the catalog does not have. -/
structure UnknownDirective where
  /-- The keyword that was found. -/
  name : Text
  /-- Where its comment starts. -/
  position : Position
deriving DecidableEq, Repr

/-- The directive as a finding about a file. -/
def UnknownDirective.toDiagnostic (d : UnknownDirective) (file : Text) : Diagnostic where
  code := .directiveUnknown
  severity := .warn
  message := "unknown directive `" ++ d.name ++ "` ignored"
  location := some (.atPosition file d.position)
  comparison := .untold

/-- What a template asks for. -/
structure Extraction where
  /-- The fields, in the order of their references. -/
  fields : List Field
  /-- The directives that are not in the catalog. -/
  unknown : List UnknownDirective
deriving DecidableEq, Repr

namespace Keyword

/-- The fields among arguments, typed by the signature. -/
def typedFields (k : Keyword) (args : List Arg) : List Field :=
  (k.signature.zip args).filterMap fun ((_, type), arg) => arg.fieldName?.map (⟨·, type⟩)

end Keyword

namespace Directive

/-- The fields that a directive refers to. A `multi` has to have its three arguments; any other
directive gives what its signature has a place for. -/
def fields (d : Directive) : Except ArityError (List Field) :=
  match d.keyword? with
  | none => .ok []
  | some .multi =>
    if d.args.length = Keyword.multi.arity then .ok (Keyword.multi.typedFields d.args)
    else .error ⟨.multi, d.args.length, d.position⟩
  | some k => .ok (k.typedFields d.args)

end Directive

namespace Extraction

/-- Puts what one directive asks for in front. -/
def add (d : Directive) (rest : Extraction) (fields : List Field) : Extraction :=
  match d.keyword? with
  | none => ⟨rest.fields, ⟨d.name, d.position⟩ :: rest.unknown⟩
  | some _ => ⟨fields ++ rest.fields, rest.unknown⟩

/-- What a list of directives asks for. The first error in order counts. -/
def ofDirectives : List Directive → Except ArityError Extraction
  | [] => .ok ⟨[], []⟩
  | d :: rest => do
    let fields ← d.fields
    let extraction ← ofDirectives rest
    return add d extraction fields

/-- What a template asks for. -/
def ofText (source : Text) : Except ArityError Extraction := ofDirectives (Directive.all source)

end Extraction

end TwoWaySql

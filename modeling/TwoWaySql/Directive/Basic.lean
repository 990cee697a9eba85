import TwoWaySql.Diagnostic
import TwoWaySql.Directive.Arg
import TwoWaySql.Directive.Keyword
import TwoWaySql.Directive.Layout
import TwoWaySql.Directive.Token

/-!
# Directives

The first token of a comment's body is its keyword and the others are its arguments. A body
without tokens holds no directive.
-/
namespace TwoWaySql

/-- A directive of a template. -/
structure Directive where
  /-- The first token, whether or not the catalog has it. -/
  name : Text
  /-- The other tokens. -/
  args : List Arg
  /-- Where the comment starts. -/
  position : Position
  /-- Whether the blanks before the comment are to go. -/
  trimsLeft : Bool
  /-- Whether the blanks after the comment are to go. -/
  trimsRight : Bool
deriving DecidableEq, Repr

/-- A directive with the wrong number of arguments. -/
structure ArityError where
  /-- The keyword. -/
  keyword : Keyword
  /-- The number of arguments it was given. -/
  found : Nat
  /-- Where its comment starts. -/
  position : Position
deriving DecidableEq, Repr

namespace ArityError

/-- The wording for people. -/
def message (e : ArityError) : Text :=
  "directive `" ++ e.keyword.word ++ "` expects " ++ Text.ofNat e.keyword.arity ++
    " arguments, found " ++ Text.ofNat e.found ++ " (" ++ e.position.describe ++ ")"

/-- The arity that was expected and the one that was found. -/
def comparison (e : ArityError) : Comparison :=
  .between (Text.ofNat e.keyword.arity) (Text.ofNat e.found)

/-- The error as a finding about a file. -/
def toDiagnostic (e : ArityError) (file : Text) : Diagnostic where
  code := .directiveArity
  severity := .error
  message := e.message
  location := some (.atPosition file e.position)
  comparison := e.comparison

end ArityError

namespace Directive

/-- The directive in a comment, if its body is not blank. -/
def ofSpan? (position : Position) (span : Span) : Option Directive :=
  match Token.all span.body with
  | [] => none
  | name :: args =>
    some ⟨name, args.map Arg.ofToken, position, span.trimsLeft, span.trimsRight⟩

/-- The directives of a template, in order. -/
def all (source : Text) : List Directive :=
  (Layout.ofText source).located.filterMap fun (p, span) => ofSpan? p span

/-- The keyword of the directive, if the catalog has it. -/
def keyword? (d : Directive) : Option Keyword := Keyword.ofWord? d.name

end Directive

end TwoWaySql

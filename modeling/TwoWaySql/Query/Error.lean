import TwoWaySql.Directive.Basic
import TwoWaySql.Value.Basic

/-!
# Compilation errors

What can be wrong with a template, or with the data it is compiled against, and where.
-/
namespace TwoWaySql

/-- Why a template does not compile. -/
inductive CompileError where
  /-- The data have no such field. -/
  | unresolvedField (name : Text) (position : Position)
  /-- An argument, counted from one, does not have the type that its directive asks for. -/
  | typeMismatch (keyword : Keyword) (index : Nat) (expected : FieldType) (found : Text)
      (position : Position)
  /-- A directive has the wrong number of arguments. -/
  | arity (error : ArityError)
  /-- A block is closed that was not opened. -/
  | endWithoutIf (position : Position)
  /-- A block is opened that is not closed. -/
  | ifWithoutEnd (position : Position)
  /-- A comment is opened that is not closed. -/
  | neverClosed (position : Position)
  /-- A comment holds blanks only. -/
  | emptyDirective (position : Position)
  /-- A bare argument is no literal. -/
  | notLiteral (text : Text) (position : Position)
deriving DecidableEq, Repr

namespace CompileError

/-- Where the directive that caused the error starts. -/
def position : CompileError → Position
  | unresolvedField _ p => p
  | typeMismatch _ _ _ _ p => p
  | arity e => e.position
  | endWithoutIf p => p
  | ifWithoutEnd p => p
  | neverClosed p => p
  | emptyDirective p => p
  | notLiteral _ p => p

/-- The error without its place. -/
def cause : CompileError → Text
  | unresolvedField name _ => "field `" ++ name ++ "` not found in template data"
  | typeMismatch keyword index expected found _ =>
    "directive `" ++ keyword.word ++ "` expects " ++ expected.word ++ " for argument " ++
      Text.ofNat index ++ ", found " ++ found
  | arity e =>
    "directive `" ++ e.keyword.word ++ "` expects " ++ Text.ofNat e.keyword.arity ++
      " arguments, found " ++ Text.ofNat e.found
  | endWithoutIf _ => "unbalanced block: `end` without matching `if`"
  | ifWithoutEnd _ => "unbalanced block: `if` without matching `end`"
  | neverClosed _ => "malformed template: directive opened with `/**` is never closed"
  | emptyDirective _ => "malformed template: empty directive"
  | notLiteral text _ =>
    "malformed template: `" ++ text ++ "` is neither a field reference nor a literal"

/-- The wording for people. -/
def message (e : CompileError) : Text := e.cause ++ " (" ++ e.position.describe ++ ")"

/-- The kind of finding that the error is. -/
def code : CompileError → DiagnosticCode
  | unresolvedField .. => .templateUnresolvedField
  | typeMismatch .. => .templateTypeMismatch
  | arity _ => .directiveArity
  | endWithoutIf _ => .templateUnbalancedBlock
  | ifWithoutEnd _ => .templateUnbalancedBlock
  | neverClosed _ => .templateMalformed
  | emptyDirective _ => .templateMalformed
  | notLiteral .. => .templateMalformed

/-- What was expected and what was found, where the error compares two things. -/
def comparison : CompileError → Comparison
  | typeMismatch _ _ expected found _ => .between expected.word found
  | arity e => e.comparison
  | _ => .untold

/-- The error as a finding about a file. -/
def toDiagnostic (e : CompileError) (file : Text) : Diagnostic where
  code := e.code
  severity := .error
  message := e.message
  location := some (.atPosition file e.position)
  comparison := e.comparison

end CompileError

end TwoWaySql

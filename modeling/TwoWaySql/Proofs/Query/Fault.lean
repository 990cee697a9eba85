import TwoWaySql.Proofs.Outcome
import TwoWaySql.Query.Expansion

/-!
# Faulty arguments

Every directive looks at its arguments in order, resolves each and compares its value with the
type that the signature gives it. One rule, `Keyword.fault?`, says for all of them what is wrong
with which argument; `Action.expand_failsWith` says that directives fail by this rule and by
nothing else.
-/
namespace TwoWaySql

open Outcome (FailsWith)

private theorem findSome?_cons_eq_or {α β : Type} (f : α → Option β) (a : α) (l : List α) :
    (a :: l).findSome? f = (f a).or (l.findSome? f) := by
  cases h : f a <;> simp [h]

/-- Whether a value will do where a type is asked for. An integer does for a floating point
number. -/
def FieldType.accepts : FieldType → Value → Bool
  | .string, .string _ => true
  | .integer, .int _ => true
  | .float, .float _ => true
  | .float, .int _ => true
  | .boolean, .bool _ => true
  | .list, .list _ => true
  | .scalar, .list _ => false
  | .scalar, _ => true
  | _, _ => false

namespace Arg

/-- What is wrong with an argument of a directive, the argument counted from one. -/
def fault? (data : Data) (position : Position) (keyword : Keyword) (index : Nat)
    (type : FieldType) (arg : Arg) : Option CompileError :=
  match arg.resolve data position with
  | .error e => some e
  | .ok value =>
    if type.accepts value then none
    else some (.typeMismatch keyword index type value.typeWord position)

variable (data : Data) (position : Position) (keyword : Keyword) (index : Nat) (arg : Arg)

/-- An argument has no value if it refers to a field that the data do not have, or is a bare word
that is no literal. -/
theorem resolve_eq_error_iff {e : CompileError} : arg.resolve data position = .error e ↔
    (∃ name, arg = .field name ∧ data name = none ∧ e = .unresolvedField name position) ∨
      ∃ text, arg = .bare text ∧ Value.ofLiteral? text = none ∧ e = .notLiteral text position := by
  cases arg with
  | field name => cases h : data name <;> simp [resolve, h, eq_comm]
  | quoted text => simp [resolve]
  | bare text => cases h : Value.ofLiteral? text <;> simp [resolve, h, eq_comm]

/-- An argument is at fault if it has no value or one of another type. -/
theorem fault?_eq_some_iff {type : FieldType} {e : CompileError} :
    arg.fault? data position keyword index type = some e ↔
      arg.resolve data position = .error e ∨
        ∃ value, arg.resolve data position = .ok value ∧ type.accepts value = false ∧
          e = .typeMismatch keyword index type value.typeWord position := by
  rw [fault?]
  cases arg.resolve data position with
  | error e' => simp
  | ok value =>
      cases h : type.accepts value with
      | true => simp [h]
      | false =>
          simp only [Bool.false_eq_true, if_false, Option.some.injEq, reduceCtorEq, false_or,
            Except.ok.injEq, exists_eq_left', h, true_and]
          exact eq_comm

theorem resolveString_failsWith : FailsWith (arg.resolveString data keyword index position)
    (arg.fault? data position keyword index .string) := by
  intro e
  rw [resolveString, fault?]
  cases arg.resolve data position with
  | error e' => simp
  | ok value => cases value <;> simp [FieldType.accepts]

theorem resolveList_failsWith : FailsWith (arg.resolveList data keyword index position)
    (arg.fault? data position keyword index .list) := by
  intro e
  rw [resolveList, fault?]
  cases arg.resolve data position with
  | error e' => simp
  | ok value => cases value <;> simp [FieldType.accepts]

theorem resolveCondition_failsWith : FailsWith (arg.resolveCondition data position)
    (arg.fault? data position .ifBlock 1 .boolean) := by
  intro e
  rw [resolveCondition, fault?]
  cases arg.resolve data position with
  | error e' => simp
  | ok value => cases value <;> simp [FieldType.accepts]

end Arg

namespace Keyword

/-- What is wrong with the arguments of a directive at a place: the first of them that has no
value, or not one of the type that the signature asks for. -/
def fault? (data : Data) (position : Position) (k : Keyword) (args : List Arg) :
    Option CompileError :=
  ((k.signature.zip args).zipIdx 1).findSome? fun (((_, type), arg), index) =>
    arg.fault? data position k index type

/-- The fault of a directive is that of one of its arguments, with the type of its place. -/
theorem exists_arg_of_fault? {data : Data} {position : Position} {k : Keyword} {args : List Arg}
    {e : CompileError} (h : k.fault? data position args = some e) :
    ∃ (i : Nat) (role : Role) (type : FieldType) (arg : Arg),
      k.signature[i]? = some (role, type) ∧ args[i]? = some arg ∧
      arg.fault? data position k (i + 1) type = some e := by
  obtain ⟨⟨⟨⟨role, type⟩, arg⟩, index⟩, hmem, hfault⟩ := List.exists_of_findSome?_eq_some h
  obtain ⟨hle, hget⟩ := List.mk_mem_zipIdx_iff_le_and_getElem?_sub.1 hmem
  obtain ⟨hsignature, harg⟩ := List.getElem?_zip_eq_some.1 hget
  have hindex : index - 1 + 1 = index := Nat.sub_add_cancel hle
  exact ⟨index - 1, role, type, arg, hsignature, harg, by rwa [hindex]⟩

/-- Where the signature has one place, the directive has the fault of its one argument. -/
theorem fault?_singleton (data : Data) (position : Position) {k : Keyword} {role : Role}
    {type : FieldType} (h : k.signature = [(role, type)]) (arg : Arg) :
    k.fault? data position [arg] = arg.fault? data position k 1 type := by
  simp [fault?, h]

theorem fault?_multi (data : Data) (position : Position) (subTemplate separator items : Arg) :
    multi.fault? data position [subTemplate, separator, items] =
      (subTemplate.fault? data position .multi 1 .string).or
        ((separator.fault? data position .multi 2 .string).or
          (items.fault? data position .multi 3 .list)) := by
  simp only [fault?, signature, List.zip_cons_cons, List.zip_nil_left, List.zipIdx_cons,
    List.zipIdx_nil, findSome?_cons_eq_or, List.findSome?_nil, Option.or_none]

end Keyword

namespace Binder

theorem signature_keyword (b : Binder) : b.keyword.signature = [(.value, b.type)] := by
  cases b <;> rfl

/-- A directive that binds one value takes those of its type. -/
theorem isSome_accept? (b : Binder) (v : Value) : (b.accept? v).isSome = b.type.accepts v := by
  cases b <;> cases v <;> rfl

end Binder

namespace Action

/-- A directive that emits SQL fails by its arguments, and by nothing else. -/
theorem expand_failsWith (data : Data) (position : Position) (a : Action) :
    FailsWith (a.expand data position) (a.keyword.fault? data position a.args) := by
  cases a with
  | bind b arg =>
      intro e
      rw [keyword, args, Keyword.fault?_singleton data position b.signature_keyword, Arg.fault?,
        expand]
      cases arg.resolve data position with
      | error e' => simp
      | ok v =>
          have haccept := b.isSome_accept? v
          cases hv : b.accept? v <;> simp [hv, ← haccept]
  | inList items =>
      rw [keyword, args, Keyword.fault?_singleton data position (by rfl)]
      exact (items.resolveList_failsWith data position .inList 1).bind_ok _
  | multi subTemplate separator items =>
      rw [keyword, args, Keyword.fault?_multi]
      refine (subTemplate.resolveString_failsWith data position .multi 1).bind fun _ _ => ?_
      refine (separator.resolveString_failsWith data position .multi 2).bind fun _ _ => ?_
      exact (items.resolveList_failsWith data position .multi 3).bind_ok _

end Action

end TwoWaySql

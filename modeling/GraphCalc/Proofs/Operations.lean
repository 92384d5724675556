import GraphCalc.Proofs.GuardedEvaluation
import GraphCalc.Proofs.GuardedSimplification

/-!
# Operations on lists of arguments

Evaluation and simplification take the arguments of an operation apart one by one. Seen as a whole, each of
them checks the operation, works through the list of its arguments, and then applies the operation to a list
of values. The last step is partial: a command has no value, and the list may be too short.

`toDouble_operation` and `simplify_operation_foldOr` say that it is never met where it is undefined. They
hold whatever fault stands in its place, so no fault can come of it.
-/

namespace GraphCalc

variable [MathLibrary]

/-- The value of an operation on a list of values, and a fault where it has none: a command never has one,
and every other operation needs as many values as it takes arguments. -/
def Op.applyOr (fault : CalcError) (op : Op) (values : List Float) : Except CalcError Float :=
  match op.apply? values with
  | some x => .ok x
  | none => .error fault

theorem Op.exists_applyOr {op : Op} {values : List Float} (evaluable : op.isEvaluable)
    (enough : values.length = op.arity) (fault : CalcError) :
    ∃ x, op.applyOr fault values = .ok x := by
  cases op with
  | binary op =>
    obtain ⟨x, y, rfl⟩ := List.length_eq_two.mp enough
    exact ⟨op.apply x y, rfl⟩
  | unary op =>
    obtain ⟨x, rfl⟩ := List.length_eq_one_iff.mp enough
    exact ⟨op.apply x, rfl⟩
  | command command => cases evaluable

namespace Bindings

variable {E : Bindings} {chain : List String} {name : String} {args : List Expr}

theorem toDouble_of_not_evaluable {op : Op} (inert : op.isEvaluable = false) (args : List Expr) :
    E.toDouble chain (.operation op.name args) =
      .error (.unknownOperation op.name (some CalcError.numericContext)) := by
  cases op with
  | binary | unary => cases inert
  | command command => exact toDouble_command command args

theorem toDouble_of_arity {op : Op} (evaluable : op.isEvaluable) (arity : args.length = op.arity)
    (fault : CalcError) :
    E.toDouble chain (.operation op.name args) = (do
      let values ← args.mapM (E.toDouble chain)
      op.applyOr fault values) := by
  cases op with
  | binary op =>
    obtain ⟨a, b, rfl⟩ := List.length_eq_two.mp arity
    simp only [List.mapM_cons, List.mapM_nil, bind_assoc, pure_bind]
    exact toDouble_binary E chain op a b
  | unary op =>
    obtain ⟨a, rfl⟩ := List.length_eq_one_iff.mp arity
    simp only [List.mapM_cons, List.mapM_nil, bind_assoc, pure_bind]
    exact toDouble_unary E chain op a
  | command command => cases evaluable

/-- Evaluation of an operation: look it up, refuse a command, check the number of arguments, work the
arguments out from left to right, and apply the operation. -/
theorem toDouble_operation (fault : CalcError) :
    E.toDouble chain (.operation name args) = (do
      let op ← Op.lookup name
      if op.isEvaluable then
        let _ ← Expr.checkArity name args
        let values ← args.mapM (E.toDouble chain)
        op.applyOr fault values
      else throw (.unknownOperation name (some CalcError.numericContext))) := by
  cases known : Op.named? name with
  | none =>
    have unknown : Op.lookup name = .error (.unknownOperation name none) := by
      rw [Op.lookup, known]
    simp only [toDouble_unknown args known, unknown, bind, Except.bind]
  | some op =>
    obtain rfl := Op.named?_eq_some_iff.mp known
    have found : Op.lookup op.name = .ok op := by rw [Op.lookup, known]
    cases evaluable : op.isEvaluable with
    | false => simp [toDouble_of_not_evaluable evaluable, found, evaluable, bind, Except.bind, throw,
        throwThe, MonadExceptOf.throw]
    | true =>
      cases checked : Expr.checkArity op.name args with
      | ok other =>
        obtain ⟨named, arity⟩ := Expr.checkArity_eq_ok_iff.mp checked
        obtain rfl := Op.name_injective named
        simp only [toDouble_of_arity evaluable arity fault, found, evaluable, bind, Except.bind, if_true]
      | error error =>
        rcases Expr.checkArity_error checked with ⟨unnamed, _⟩ | ⟨other, named, wrong, rfl⟩
        · cases known.symm.trans unnamed
        · obtain rfl := Op.name_injective named
          simp only [toDouble_wrongArity evaluable wrong, found, evaluable, bind, Except.bind, if_true]

/-- The value that an operation gives way to once its arguments are simplified: if it folds and all of them
are calculable, they are evaluated and the operation is applied to the values. -/
def foldOr (E : Bindings) (chain : List String) (fault : CalcError) (op : Op) (args : List Expr) :
    Except CalcError (Option Float) := do
  if op.folds then
    if ← args.allM (E.isCalculable chain) then
      let values ← args.mapM (E.toDouble chain)
      return some (← op.applyOr fault values)
  return none

theorem foldValue?_of_arity {op : Op} (arity : args.length = op.arity) (fault : CalcError) :
    E.foldValue? chain op args = E.foldOr chain fault op args := by
  unfold foldOr
  cases op with
  | binary op =>
    obtain ⟨a, b, rfl⟩ := List.length_eq_two.mp arity
    simp only [foldValue?, foldValueBy, Op.folds, List.allM, List.mapM_cons, List.mapM_nil, bind_assoc,
      pure_bind]
    cases op.folds with
    | false => rfl
    | true =>
      rcases E.isCalculable chain a with _ | _ | _
      · rfl
      · rfl
      · rcases E.isCalculable chain b with _ | _ | _ <;> rfl
  | unary op =>
    obtain ⟨a, rfl⟩ := List.length_eq_one_iff.mp arity
    simp only [foldValue?, foldValueBy, Op.folds, List.allM, List.mapM_cons, List.mapM_nil, bind_assoc,
      pure_bind]
    cases op.folds with
    | false => rfl
    | true => rcases E.isCalculable chain a with _ | _ | _ <;> rfl
  | command command => rfl

/-- Simplification of an operation: check it, simplify the arguments from left to right, and fold. -/
theorem simplify_operation_foldOr (fault : CalcError) :
    E.simplify chain (.operation name args) = (do
      let op ← Expr.checkArity name args
      let simplified ← args.mapM (E.simplify chain)
      match ← E.foldOr chain fault op simplified with
      | some value => return .number value
      | none => return .operation name simplified) := by
  rw [simplify_operation]
  cases checked : Expr.checkArity name args with
  | error error => rfl
  | ok op =>
    cases worked : args.mapM (E.simplify chain) with
    | error error => rfl
    | ok simplified =>
      have arity : simplified.length = op.arity :=
        (Results.mapM_eq_ok_iff.mp worked).length_eq ▸ (Expr.checkArity_eq_ok_iff.mp checked).2
      have folded : E.foldValue? chain op simplified = E.foldOr chain fault op simplified :=
        foldValue?_of_arity arity fault
      dsimp only [bind, Except.bind]
      exact folded ▸ rfl

end Bindings

end GraphCalc

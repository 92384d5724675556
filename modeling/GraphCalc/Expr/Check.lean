import GraphCalc.CalcError

/-!
# Checking operations

An operation of a formula is sound if its name is known and it has as many arguments as the operation
takes. `checkArity_eq_ok_iff` says that the check accepts exactly those, and `checkArity_error` what it
reports of the others.
-/

namespace GraphCalc

/-- The operation of a name. -/
def Op.lookup (name : String) : Except CalcError Op :=
  match Op.named? name with
  | some op => .ok op
  | none => .error (.unknownOperation name none)

/-- The operation of a name, if it takes the given arguments. -/
def Expr.checkArity (name : String) (args : List Expr) : Except CalcError Op :=
  match Op.named? name with
  | none => .error (.unknownOperation name none)
  | some op =>
    if args.length = op.arity then .ok op
    else .error (.wrongArity name op.arity args.length)

theorem Expr.checkArity_eq_ok_iff {name : String} {args : List Expr} {op : Op} :
    Expr.checkArity name args = .ok op ↔ op.name = name ∧ args.length = op.arity := by
  unfold Expr.checkArity
  rw [← Op.named?_eq_some_iff]
  split
  · simp_all
  · split <;> simp_all
    intro same
    simp_all

theorem Expr.checkArity_error {name : String} {args : List Expr} {error : CalcError}
    (refused : Expr.checkArity name args = .error error) :
    (Op.named? name = none ∧ error = .unknownOperation name none) ∨
      ∃ op : Op, op.name = name ∧ args.length ≠ op.arity ∧
        error = .wrongArity name op.arity args.length := by
  unfold Expr.checkArity at refused
  split at refused
  · cases refused
    exact .inl ⟨‹_›, rfl⟩
  · rename_i op known
    split at refused <;> cases refused
    exact .inr ⟨op, Op.named?_eq_some_iff.mp known, ‹_›, rfl⟩

end GraphCalc

import GraphCalc.Bindings
import GraphCalc.Expr.Check

/-!
# Evaluation

The double that a formula is worth under bindings. Names are followed to what they stand for, arguments
are worked out from left to right, and the first failure is the failure of the whole. Arithmetic itself
never fails. The bindings are only read.

`toDouble_number`, `toDouble_var`, `toDouble_binary` and `toDouble_unary` restate the definition for the
formulas that can have a value.
-/

namespace GraphCalc.Bindings

variable [MathLibrary]

/-- The value of a formula, met while the names of a chain are being followed. An operation is refused
before its arguments are looked at. -/
def toDouble (E : Bindings) (chain : List String) : Expr → Except CalcError Float
  | .number x => .ok x
  | .var name =>
    match _link : E.resolve name chain with
    | .error e => .error e
    | .ok (bound, extended) => toDouble E extended bound
  | .operation name args =>
    match Op.named? name with
    | none => .error (.unknownOperation name none)
    | some (.command _) => .error (.unknownOperation name (some CalcError.numericContext))
    | some (.binary op) =>
      match args with
      | [a, b] => do return op.apply (← toDouble E chain a) (← toDouble E chain b)
      | _ => .error (.wrongArity name 2 args.length)
    | some (.unary op) =>
      match args with
      | [a] => do return op.apply (← toDouble E chain a)
      | _ => .error (.wrongArity name 1 args.length)
termination_by e => (E.unvisited chain, sizeOf e)
decreasing_by
  · exact Prod.Lex.left _ _ (unvisited_lt_of_resolve _link)
  all_goals
    apply Prod.Lex.right
    simp +arith

@[simp] theorem toDouble_number (E : Bindings) (chain : List String) (x : Float) :
    E.toDouble chain (.number x) = .ok x := by
  rw [toDouble]

theorem toDouble_var (E : Bindings) (chain : List String) (name : String) :
    E.toDouble chain (.var name) =
      (E.resolve name chain).bind fun link => E.toDouble link.2 link.1 := by
  rw [toDouble]
  split <;> rename_i link <;> rw [link] <;> rfl

theorem toDouble_binary (E : Bindings) (chain : List String) (op : BinaryOp) (a b : Expr) :
    E.toDouble chain (.operation op.name [a, b]) = do
      return op.apply (← E.toDouble chain a) (← E.toDouble chain b) := by
  have known : Op.named? op.name = some (.binary op) := Op.named?_eq_some_iff.mpr rfl
  rw [toDouble]
  simp only [known]

theorem toDouble_unary (E : Bindings) (chain : List String) (op : UnaryOp) (a : Expr) :
    E.toDouble chain (.operation op.name [a]) = do
      return op.apply (← E.toDouble chain a) := by
  have known : Op.named? op.name = some (.unary op) := Op.named?_eq_some_iff.mpr rfl
  rw [toDouble]
  simp only [known]

end GraphCalc.Bindings

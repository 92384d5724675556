import GraphCalc.Evaluation
import GraphCalc.Proofs.Walks

/-!
# The meaning of formulas

What a formula is worth, and why it is worth nothing, by rules alone: names stand for what they are
bound to, and nothing keeps count of the names being followed. A formula caught in a circle of
definitions has neither a value nor a fault, because the rules never come to an end there.

`Needs` says which formulas a formula's meaning rests on. `Evaluates.grounded` and `Fails.grounded`
say that a formula with a meaning rests on nothing circular.
-/

namespace GraphCalc.Bindings

variable {E : Bindings} {e a b : Expr} {x y : Float}
variable [MathLibrary]

/-- A formula is worth a double: a number its own value, a name what its definition is worth, and an
operation what it makes of the values of its arguments. -/
inductive Evaluates (E : Bindings) : Expr → Float → Prop
  | number (x : Float) : Evaluates E (.number x) x
  | link {name : String} {bound : Expr} {x : Float} (found : E.find? name = some bound)
      (value : Evaluates E bound x) : Evaluates E (.var name) x
  | binary (op : BinaryOp) {a b : Expr} {x y : Float} (left : Evaluates E a x)
      (right : Evaluates E b y) : Evaluates E (.operation op.name [a, b]) (op.apply x y)
  | unary (op : UnaryOp) {a : Expr} {x : Float} (operand : Evaluates E a x) :
      Evaluates E (.operation op.name [a]) (op.apply x)

/-- A formula has a fault: the first one that is met when arguments are worked out from left to right
and an operation is looked at before its arguments. -/
inductive Fails (E : Bindings) : Expr → CalcError → Prop
  | unbound {name : String} (missing : E.find? name = none) :
      Fails E (.var name) (.undefinedVariable name)
  | link {name : String} {bound : Expr} {error : CalcError} (found : E.find? name = some bound)
      (fault : Fails E bound error) : Fails E (.var name) error
  | unknown {name : String} {args : List Expr} (unnamed : Op.named? name = none) :
      Fails E (.operation name args) (.unknownOperation name none)
  | command (command : Command) {args : List Expr} :
      Fails E (.operation command.name args)
        (.unknownOperation command.name (some CalcError.numericContext))
  | arity (op : Op) {args : List Expr} (evaluable : op.isEvaluable) (wrong : args.length ≠ op.arity) :
      Fails E (.operation op.name args) (.wrongArity op.name op.arity args.length)
  | left (op : BinaryOp) {a b : Expr} {error : CalcError} (fault : Fails E a error) :
      Fails E (.operation op.name [a, b]) error
  | right (op : BinaryOp) {a b : Expr} {x : Float} {error : CalcError} (value : Evaluates E a x)
      (fault : Fails E b error) : Fails E (.operation op.name [a, b]) error
  | operand (op : UnaryOp) {a : Expr} {error : CalcError} (fault : Fails E a error) :
      Fails E (.operation op.name [a]) error

/-- The meaning of one formula rests on that of another. The second argument of an operation counts
only where the first has a value. -/
inductive Needs (E : Bindings) : Expr → Expr → Prop
  | link {name : String} {bound : Expr} (found : E.find? name = some bound) :
      Needs E (.var name) bound
  | left (op : BinaryOp) {a b : Expr} : Needs E (.operation op.name [a, b]) a
  | right (op : BinaryOp) {a b : Expr} {x : Float} (value : Evaluates E a x) :
      Needs E (.operation op.name [a, b]) b
  | operand (op : UnaryOp) {a : Expr} : Needs E (.operation op.name [a]) a

theorem Needs.of_link {name : String} {bound f : Expr} (needs : Needs E (.var name) f)
    (found : E.find? name = some bound) : f = bound := by
  cases needs with
  | link other => exact Option.some.inj (other.symm.trans found)

theorem Needs.of_two {name : String} {f : Expr} (needs : Needs E (.operation name [a, b]) f) :
    f = a ∨ (f = b ∧ ∃ x, Evaluates E a x) := by
  cases needs with
  | left => exact .inl rfl
  | right _ value => exact .inr ⟨rfl, _, value⟩

theorem Needs.of_one {name : String} {f : Expr} (needs : Needs E (.operation name [a]) f) :
    f = a := by
  cases needs with
  | operand => rfl

/-- Only an operation that has a value of its own rests on its arguments. -/
theorem Needs.sound {name : String} {args : List Expr} {f : Expr}
    (needs : Needs E (.operation name args) f) :
    ∃ op, Op.named? name = some op ∧ op.isEvaluable ∧ args.length = op.arity := by
  cases needs with
  | left op => exact ⟨.binary op, Op.named?_eq_some_iff.mpr rfl, rfl, rfl⟩
  | right op => exact ⟨.binary op, Op.named?_eq_some_iff.mpr rfl, rfl, rfl⟩
  | operand op => exact ⟨.unary op, Op.named?_eq_some_iff.mpr rfl, rfl, rfl⟩

/-- What has a value rests on nothing circular. -/
theorem Evaluates.grounded (value : Evaluates E e x) : Grounded (Needs E) e := by
  induction value with
  | number x => exact .of_steps nofun
  | link found _ ih => exact .of_steps fun f needs => needs.of_link found ▸ ih
  | binary op _ _ leftIH rightIH =>
    refine .of_steps fun f needs => ?_
    rcases needs.of_two with rfl | ⟨rfl, _⟩
    · exact leftIH
    · exact rightIH
  | unary op _ ih => exact .of_steps fun f needs => needs.of_one ▸ ih

end GraphCalc.Bindings

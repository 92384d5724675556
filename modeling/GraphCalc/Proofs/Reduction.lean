import GraphCalc.Simplification
import GraphCalc.Proofs.Results
import GraphCalc.Proofs.Walks

/-!
# The rules of reduction

What the reduced form of a formula is, by rules alone: a bound name gives way to the reduced form of its
definition, an operation works on the reduced forms of its arguments, and nothing keeps count of the
names being followed. A formula with an operation that is unknown or has the wrong number of arguments
has no reduced form, nor has one caught in a circle of definitions.

`Mentions` says where a reduction has to look, and `Reduces.grounded` that it looks nowhere circular.
-/

namespace GraphCalc

variable [MathLibrary]

/-- The value of an operation that folds, on literals. -/
def Op.constant? : Op → List Expr → Option Float
  | .binary op, [.number x, .number y] => if op.folds then some (op.apply x y) else none
  | .unary op, [.number x] => if op.folds then some (op.apply x) else none
  | _, _ => none

/-- An operation on reduced arguments: its value where it has a constant one, else the operation. -/
def Op.reduce (op : Op) (args : List Expr) : Expr :=
  match op.constant? args with
  | some x => .number x
  | none => .operation op.name args

theorem Op.reduce_of_constant {op : Op} {args : List Expr} {x : Float}
    (constant : op.constant? args = some x) : op.reduce args = .number x := by
  unfold Op.reduce
  rw [constant]

theorem Op.reduce_of_not_constant {op : Op} {args : List Expr} (kept : op.constant? args = none) :
    op.reduce args = .operation op.name args := by
  unfold Op.reduce
  rw [kept]

/-- With the right number of arguments, an operation is kept exactly if it does not fold or some
argument is no literal. -/
theorem Op.constant?_eq_none_iff {op : Op} {args : List Expr} (arity : args.length = op.arity) :
    op.constant? args = none ↔ (op.folds → ∃ a ∈ args, a.isNumber = false) := by
  cases op with
  | binary op =>
    obtain ⟨a, b, rfl⟩ := List.length_eq_two.mp arity
    cases a <;> cases b <;> simp [Op.constant?, Op.folds, Expr.isNumber]
  | unary op =>
    obtain ⟨a, rfl⟩ := List.length_eq_one_iff.mp arity
    cases a <;> simp [Op.constant?, Op.folds, Expr.isNumber]
  | command command => simp [Op.constant?, Op.folds]

namespace Bindings

open Results

variable {E : Bindings} {e a b r : Expr}

/-- A formula has a reduced form. -/
inductive Reduces (E : Bindings) : Expr → Expr → Prop
  | number (x : Float) : Reduces E (.number x) (.number x)
  | unbound {name : String} (missing : E.find? name = none) : Reduces E (.var name) (.var name)
  | link {name : String} {bound r : Expr} (found : E.find? name = some bound)
      (reduced : Reduces E bound r) : Reduces E (.var name) r
  | operation (op : Op) {args reduced : List Expr} (arity : args.length = op.arity)
      (paired : args.length = reduced.length)
      (each : ∀ a b, (a, b) ∈ args.zip reduced → Reduces E a b) :
      Reduces E (.operation op.name args) (op.reduce reduced)

/-- One formula stands right below another, or is what it stands for. -/
inductive Mentions (E : Bindings) : Expr → Expr → Prop
  | link {name : String} {bound : Expr} (found : E.find? name = some bound) :
      Mentions E (.var name) bound
  | argument {name : String} {args : List Expr} {a : Expr} (member : a ∈ args) :
      Mentions E (.operation name args) a

theorem Reduces.of_pairs (op : Op) {args reduced : List Expr} (arity : args.length = op.arity)
    (pairs : List.Forall₂ (Reduces E) args reduced) :
    Reduces E (.operation op.name args) (op.reduce reduced) :=
  .operation op arity pairs.length_eq fun _ _ pair => List.forall₂_zip pairs pair

/-- What has a reduced form mentions nothing circular. -/
theorem Reduces.grounded (reduces : Reduces E e r) : Grounded (Mentions E) e := by
  induction reduces with
  | number x => exact .of_steps nofun
  | unbound missing =>
    refine .of_steps fun f mentions => ?_
    cases mentions with
    | link found => cases missing.symm.trans found
  | link found _ ih =>
    refine .of_steps fun f mentions => ?_
    cases mentions with
    | link other => exact Option.some.inj (found.symm.trans other) ▸ ih
  | operation op _ paired _ ih =>
    refine .of_steps fun f mentions => ?_
    cases mentions with
    | argument member =>
      obtain ⟨_, _, grounded⟩ := exists_of_mem_left (forall₂_of_zip paired ih) member
      exact grounded

/-- A reduced formula is a literal, a name without a binding, or an operation. -/
theorem Reduces.shape (reduces : Reduces E e r) :
    (∃ x, r = .number x) ∨ (∃ name, r = .var name ∧ E.find? name = none) ∨
      ∃ name args, r = .operation name args := by
  induction reduces with
  | number x => exact .inl ⟨x, rfl⟩
  | unbound missing => exact .inr (.inl ⟨_, rfl, missing⟩)
  | link _ _ ih => exact ih
  | @operation op _ reduced =>
    cases constant : op.constant? reduced with
    | some x => exact .inl ⟨x, Op.reduce_of_constant constant⟩
    | none => exact .inr (.inr ⟨_, _, Op.reduce_of_not_constant constant⟩)

end Bindings

end GraphCalc

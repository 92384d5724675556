import GraphCalc.MathLibrary

/-!
# Operations

The operations that a calculator knows, by what they do with their arguments: five join two numbers,
three change one, and three are commands, which have no value inside a formula. An operation is known by
its exact name; `Op.named?_eq_some_iff` says that names and operations determine each other.

Sums, differences, products, quotients and negations are those of double arithmetic. Powers, sines and cosines
are those of the mathematics library.
-/

namespace GraphCalc

/-- Operations on two numbers. -/
inductive BinaryOp where
  | add
  | sub
  | mul
  | div
  | pow
deriving DecidableEq, Repr

/-- Operations on one number. -/
inductive UnaryOp where
  | negate
  | sin
  | cos
deriving DecidableEq, Repr

/-- Requests to the calculator that are written like operations. -/
inductive Command where
  | toDouble
  | simplify
  | plot
deriving DecidableEq, Repr

inductive Op where
  | binary (op : BinaryOp)
  | unary (op : UnaryOp)
  | command (command : Command)
deriving DecidableEq, Repr

namespace BinaryOp

def name : BinaryOp → String
  | add => "+"
  | sub => "-"
  | mul => "*"
  | div => "/"
  | pow => "^"

/-- The value of an operation on doubles. No pair of doubles makes it fail: a zero divisor or an overflow gives
an infinity or what is not a number. -/
def apply [MathLibrary] : BinaryOp → Float → Float → Float
  | add => (· + ·)
  | sub => (· - ·)
  | mul => (· * ·)
  | div => (· / ·)
  | pow => MathLibrary.power

/-- Whether simplification works the operation out once its arguments are numbers. -/
def folds : BinaryOp → Bool
  | add | mul => true
  | sub | div | pow => false

end BinaryOp

namespace UnaryOp

def name : UnaryOp → String
  | negate => "negate"
  | sin => "sin"
  | cos => "cos"

def apply [MathLibrary] : UnaryOp → Float → Float
  | negate => fun x => -x
  | sin => MathLibrary.sin
  | cos => MathLibrary.cos

/-- Whether simplification works the operation out once its argument is a number. -/
def folds : UnaryOp → Bool
  | negate => true
  | sin | cos => false

end UnaryOp

namespace Command

def name : Command → String
  | toDouble => "toDouble"
  | simplify => "simplify"
  | plot => "plot"

def arity : Command → Nat
  | toDouble | simplify => 1
  | plot => 5

end Command

namespace Op

def name : Op → String
  | binary op => op.name
  | unary op => op.name
  | command c => c.name

/-- How many arguments an operation takes. -/
def arity : Op → Nat
  | binary _ => 2
  | unary _ => 1
  | command c => c.arity

def isBinary : Op → Bool
  | binary _ => true
  | _ => false

def isUnary : Op → Bool
  | unary _ => true
  | _ => false

def isCommand : Op → Bool
  | command _ => true
  | _ => false

/-- Whether the operation has a numeric value. -/
def isEvaluable (op : Op) : Bool := !op.isCommand

def folds : Op → Bool
  | binary op => op.folds
  | unary op => op.folds
  | command _ => false

/-- Every operation. -/
def all : List Op :=
  [binary .add, binary .sub, binary .mul, binary .div, binary .pow,
    unary .negate, unary .sin, unary .cos,
    command .toDouble, command .simplify, command .plot]

theorem mem_all (op : Op) : op ∈ all := by
  rcases op with op | op | op <;> cases op <;> simp [all]

/-- The operation of a name, letter for letter. -/
def named? (name : String) : Option Op := all.find? (·.name = name)

theorem name_injective {a b : Op} (h : a.name = b.name) : a = b := by
  have distinct : ∀ a ∈ all, ∀ b ∈ all, a.name = b.name → a = b := by decide
  exact distinct a (mem_all a) b (mem_all b) h

theorem named?_eq_some_iff {name : String} {op : Op} : named? name = some op ↔ op.name = name := by
  constructor
  · intro h
    simpa using List.find?_some h
  · intro h
    cases found : named? name with
    | none =>
      have := List.find?_eq_none.mp found op (mem_all op)
      simp [h] at this
    | some other =>
      have same : other.name = name := by simpa using List.find?_some found
      rw [name_injective (same.trans h.symm)]

end Op

/-- The values that an operation is applied to, if it has a value and there are enough of them; more
than it takes are ignored. -/
def Op.apply? [MathLibrary] : Op → List Float → Option Float
  | .binary op, x :: y :: _ => some (op.apply x y)
  | .unary op, x :: _ => some (op.apply x)
  | _, _ => none

end GraphCalc

import GraphCalc.CalcError

/-!
# Operands

What a caller may hand over where a formula is wanted: a formula, or a loose value. Numbers become
literals; every other loose value is refused, and so is an integer beyond the range of doubles.
-/

namespace GraphCalc

inductive LooseValue where
  | integer (n : Int)
  | float (x : Float)
  | truth (b : Bool)
  | nothing
  | text (s : String)
  | list (items : List LooseValue)
deriving Inhabited

namespace LooseValue

def type : LooseValue → LooseType
  | integer _ => .integer
  | float _ => .float
  | truth _ => .truth
  | nothing => .nothing
  | text _ => .text
  | list _ => .list

/-- The text of a value inside a list, where text stands between quotes. -/
def itemText : LooseValue → String
  | integer n => toString n
  | float x => Double.text x
  | truth b => if b then "True" else "False"
  | nothing => "None"
  | text s => Text.quoted s
  | list items => "[" ++ ", ".intercalate (items.map itemText) ++ "]"

/-- The text of a value in a report; text stands for itself. -/
def display : LooseValue → String
  | text s => s
  | v => v.itemText

/-- The number that a value counts as, whole or not. -/
def number? : LooseValue → Option (Int ⊕ Float)
  | integer n => some (.inl n)
  | truth b => some (.inl (if b then 1 else 0))
  | float x => some (.inr x)
  | _ => none

def sameNumber : Int ⊕ Float → Int ⊕ Float → Bool
  | .inl m, .inl n => m == n
  | .inl m, .inr y => Double.toInt? y == some m
  | .inr x, .inl n => Double.toInt? x == some n
  | .inr x, .inr y => x == y

mutual

/-- Whether two values are equal as numbers, where a truth value counts as `0` or `1`, or else as
texts or as lists. -/
def beq : LooseValue → LooseValue → Bool
  | nothing, nothing => true
  | text s, text t => s == t
  | list items, list others => beqAll items others
  | a, b =>
    match a.number?, b.number? with
    | some x, some y => sameNumber x y
    | _, _ => false

def beqAll : List LooseValue → List LooseValue → Bool
  | [], [] => true
  | a :: as, b :: bs => beq a b && beqAll as bs
  | _, _ => false

end

instance : BEq LooseValue := ⟨beq⟩

end LooseValue

inductive Operand where
  | formula (e : Expr)
  | loose (v : LooseValue)
deriving Inhabited

namespace Operand

/-- The formula that a value stands for. -/
def toExpr : Operand → Except CalcError Expr
  | formula e => .ok e
  | loose (.float x) => .ok (.number x)
  | loose (.integer n) =>
    match Double.ofInt? n with
    | some x => .ok (.number x)
    | none => .error .integerTooLarge
  | loose v => .error (.notConvertible v.type)

/-- The formula that an operation works on as it is; a loose value is refused with the given error. -/
def formulaOr (refuse : LooseType → CalcError) : Operand → Except CalcError Expr
  | formula e => .ok e
  | loose v => .error (refuse v.type)

/-- The text of a value in a report. -/
def display : Operand → String
  | formula e => e.text
  | loose v => v.display

/-- Whether two values are equal. A formula never equals a loose value. -/
def beq : Operand → Operand → Bool
  | formula e, formula f => e == f
  | loose v, loose w => v == w
  | _, _ => false

instance : BEq Operand := ⟨beq⟩

end Operand

/-- The operation of a name on operands, each of which becomes a formula; the first that cannot makes
the whole fail. -/
def Expr.build (name : String) (operands : List Operand) : Except CalcError Expr := do
  return .operation name (← operands.mapM Operand.toExpr)

/-- Text in the place of a plot variable is the name of one. -/
def Operand.asParameter : Operand → Operand
  | loose (.text name) => formula (.var name)
  | operand => operand

/-- The plot command of its five parts. -/
def Expr.buildPlot (body parameter minimum maximum step : Operand) : Except CalcError Expr :=
  Expr.build Command.plot.name [body, parameter.asParameter, minimum, maximum, step]

end GraphCalc

import GraphCalc.Double.Text
import GraphCalc.Expr.Basic
import GraphCalc.Op

/-!
# The text of a formula

Binary operations stand between their arguments in brackets, a negation is a minus sign before its
argument, and everything else, a binary operation with the wrong number of arguments included, is a name
with a list of arguments.
-/

namespace GraphCalc.Expr

/-- Whether a name is written between two arguments. -/
def isInfix (name : String) : Bool :=
  match Op.named? name with
  | some (.binary _) => true
  | _ => false

/-- A minus sign before a text; brackets keep two minus signs apart. -/
def negated (operand : String) : String :=
  if operand.toList.head? = some '-' then "-(" ++ operand ++ ")" else "-" ++ operand

/-- The text of an operation from the texts of its arguments. -/
def operationText (name : String) : List String → String
  | [left, right] =>
    if isInfix name then "(" ++ left ++ " " ++ name ++ " " ++ right ++ ")"
    else name ++ "(" ++ left ++ ", " ++ right ++ ")"
  | [operand] =>
    if name = UnaryOp.negate.name then negated operand else name ++ "(" ++ operand ++ ")"
  | args => name ++ "(" ++ ", ".intercalate args ++ ")"

def text : Expr → String
  | number x => Double.numeral x
  | var name => name
  | operation name args => operationText name (args.map text)

end GraphCalc.Expr

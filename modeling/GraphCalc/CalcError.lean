import GraphCalc.Expr.Text
import GraphCalc.Text.Quoted

/-!
# Errors

Why a request fails, as causes with the data that the report of each mentions. `message` is the text of
the report. Two families, malformed formulas and failures of a calculation, hold the errors of the
calculator itself; the others reject what a caller hands over: a loose value, a setting, a limit.
-/

namespace GraphCalc

/-- Values that are no formulas, by type. -/
inductive LooseType where
  | integer
  | float
  | truth
  | nothing
  | text
  | list
deriving DecidableEq, Repr

/-- The name of a type in reports. -/
def LooseType.label : LooseType → String
  | integer => "int"
  | float => "float"
  | truth => "bool"
  | nothing => "NoneType"
  | text => "str"
  | list => "list"

inductive CalcError where
  /-- A report of no particular cause. -/
  | general (message : String)
  /-- A malformed formula, with advice if there is any. -/
  | malformed (message : String) (suggestion : Option String)
  /-- A command was expected and something else found. -/
  | notTheCommand (expected : Command) (found : Expr)
  | wrongArity (operation : String) (expected actual : Int)
  /-- The second argument of a plot is no name. -/
  | notAVariable (found : String)
  /-- A failure of a calculation, of no particular cause. -/
  | failed (message : String)
  | undefinedVariable (name : String)
  /-- An operation that is not known, or not known in some context. -/
  | unknownOperation (name : String) (context : Option String)
  | invalidRange (minimum maximum : Float)
  /-- The name to sample over already stands for something. -/
  | alreadyBound (name : String)
  | stepNotPositive (step : Float)
  /-- The step does not lead from a sample to a larger double. -/
  | stepTooSmall (step position : Float)
  /-- Names in a plotted formula that stand for nothing, in ascending order. -/
  | undefinedInPlot (names : List String)
  /-- Names each of which is defined by the next, the last one repeating an earlier one. -/
  | cyclicDefinition (chain : List String)
  | notConvertible (type : LooseType)
  | notEvaluable (type : LooseType)
  | notSimplifiable (type : LooseType)
  | integerTooLarge
  | unknownLogLevel (level : String)
  | invalidLimit (limit : Int)
  | nothingRendered
deriving DecidableEq

namespace CalcError

/-- Advice for names that are often written in place of known operations. -/
def suggestions : List (String × String) :=
  [("sine", "Did you mean 'sin'?"),
    ("cosine", "Did you mean 'cos'?"),
    ("neg", "Did you mean 'negate'? Use negate(x) or -x."),
    ("minus", "Did you mean 'negate'? Use negate(x) or -x."),
    ("pow", "Did you mean '^'? Use a ^ b for exponentiation."),
    ("power", "Did you mean '^'? Use a ^ b for exponentiation."),
    ("**", "Did you mean '^'? Use a ^ b for exponentiation."),
    ("add", "Did you mean '+'?"),
    ("sub", "Did you mean '-'?"),
    ("mul", "Did you mean '*'?"),
    ("div", "Did you mean '/'?"),
    ("todouble", "Did you mean 'toDouble'? Operation names are case-sensitive."),
    ("to_double", "Did you mean 'toDouble'?"),
    ("simplify", "simplify(...) is a command and cannot be nested inside an expression."),
    ("toDouble", "toDouble(...) is a command and cannot be nested inside an expression."),
    ("plot", "plot(...) is a command and cannot be nested inside an expression."),
    ("tan", "tan is not supported. Use sin(x) / cos(x).")]

/-- The advice for a name as it stands, else for the name in lower case. Only the letters `A` to `Z`
are lowered: no other character has a lower-case form that occurs in the table. -/
def suggestionFor (name : String) : Option String :=
  (suggestions.lookup name).or (suggestions.lookup name.toLower)

/-- The advice of a malformed plot variable. -/
def bareNameAdvice : String :=
  "Write plot(expr, x, min, max, step) with a bare name for x."

/-- The advice that an error carries. -/
def suggestion : CalcError → Option String
  | malformed _ suggestion => suggestion
  | notAVariable _ => some bareNameAdvice
  | unknownOperation name _ => suggestionFor name
  | _ => none

/-- A report with its advice on a line of its own; empty advice counts as none. -/
def withAdvice (report : String) : Option String → String
  | some advice => if advice.isEmpty then report else report ++ "\n  Suggestion: " ++ advice
  | none => report

def inQuotes (text : String) : String := "'" ++ text ++ "'"

/-- The report of an error, without its advice. -/
def report : CalcError → String
  | general message | malformed message _ | failed message => message
  | notTheCommand expected found =>
    "Expected a " ++ expected.name ++ "(...) node, got " ++ found.text
  | wrongArity operation expected actual =>
    "Operation " ++ inQuotes operation ++ " takes " ++ toString expected ++ " argument(s), got " ++
      toString actual
  | notAVariable found => "plot expects a variable as its second argument, got " ++ found
  | undefinedVariable name => "Undefined variable: " ++ inQuotes name
  | unknownOperation name context =>
    let place := match context with
      | some context => if context.isEmpty then "" else " in " ++ context
      | none => ""
    "Unknown operation: " ++ inQuotes name ++ place
  | invalidRange minimum maximum =>
    "Invalid plot range: min " ++ Double.text minimum ++ " > max " ++ Double.text maximum
  | alreadyBound name =>
    "Variable " ++ inQuotes name ++ " is already defined; plot needs a fresh variable"
  | stepNotPositive step => "Plot step must be positive, got " ++ Double.text step
  | stepTooSmall step position =>
    "Plot step " ++ Double.text step ++ " is too small to advance past " ++ Double.text position
  | undefinedInPlot names =>
    "Plotted expression contains undefined variable(s): " ++
      ", ".intercalate (names.map inQuotes)
  | cyclicDefinition chain => "Cyclic variable definition: " ++ " -> ".intercalate chain
  | notConvertible type => "Cannot convert " ++ type.label ++ " to Expr"
  | notEvaluable type => "Cannot evaluate " ++ type.label
  | notSimplifiable type => "Cannot simplify " ++ type.label
  | integerTooLarge => "int too large to convert to float"
  | unknownLogLevel level => "Unknown log level: " ++ Text.quoted level
  | invalidLimit limit => "max_calls must be at least 1, got " ++ toString limit
  | nothingRendered => "No plot has been rendered"

/-- The full text of an error. -/
def message (error : CalcError) : String := withAdvice error.report error.suggestion

/-- The context of a command inside a formula that is to have a value. -/
def numericContext : String := "a numeric expression"

/-- The error of plotting names that stand for nothing, given in any order. -/
def undefinedAmong (names : List String) : CalcError :=
  undefinedInPlot (names.mergeSort (· ≤ ·))

/-- What kind of failure a cause belongs to. -/
inductive Family where
  /-- Errors of the calculator of no closer kind. -/
  | calculator
  /-- Malformed formulas. -/
  | expression
  /-- Failures while evaluating, simplifying or plotting. -/
  | evaluation
  /-- Values of a type that an operation does not take. -/
  | looseType
  /-- Values of the right type that are out of bounds. -/
  | outOfBounds
  /-- Integers beyond the range of doubles. -/
  | overflow
  /-- Requests for what is not there. -/
  | absent
deriving DecidableEq, Repr

def family : CalcError → Family
  | general _ => .calculator
  | malformed _ _ | notTheCommand _ _ | wrongArity _ _ _ | notAVariable _ => .expression
  | failed _ | undefinedVariable _ | unknownOperation _ _ | invalidRange _ _ | alreadyBound _
  | stepNotPositive _ | stepTooSmall _ _ | undefinedInPlot _ | cyclicDefinition _ => .evaluation
  | notConvertible _ | notEvaluable _ | notSimplifiable _ => .looseType
  | unknownLogLevel _ | invalidLimit _ => .outOfBounds
  | integerTooLarge => .overflow
  | nothingRendered => .absent

end CalcError

end GraphCalc

import GraphCalc.Session.Sampling

/-!
# Input lines

One line of input is a formula. Three names are commands and ask for something particular; any other
formula asks to be reduced as far as the bindings allow.
-/

namespace GraphCalc

/-- A command with its arguments in their roles. -/
inductive Request where
  | toDouble (e : Expr)
  | simplify (e : Expr)
  | plot (request : PlotRequest)

/-- The plot request of five formulas. -/
def PlotRequest.ofExprs (body parameter minimum maximum step : Expr) : PlotRequest :=
  ⟨.formula body, .formula parameter, .formula minimum, .formula maximum, .formula step⟩

/-- What a formula asks of a command. It must be that command, with the arguments it takes. -/
def Command.requestOf (command : Command) (node : Expr) : Except CalcError Request :=
  match node with
  | .operation name args =>
    if name = command.name then
      match command, args with
      | .toDouble, [e] => .ok (.toDouble e)
      | .simplify, [e] => .ok (.simplify e)
      | .plot, [body, parameter, minimum, maximum, step] =>
        .ok (.plot (.ofExprs body parameter minimum maximum step))
      | _, _ => .error (.wrongArity name command.arity args.length)
    else .error (.notTheCommand command node)
  | _ => .error (.notTheCommand command node)

namespace Session

variable [MathLibrary]

def perform : Request → Action Expr
  | .toDouble e => do
    let value ← evaluate e
    log (.evaluated e value)
    return .number value
  | .simplify e => reduce e
  | .plot request => plot request

/-- Runs a formula as one particular command. -/
def runCommand (command : Command) (node : Expr) : Action Expr := do
  perform (← .ofExcept (command.requestOf node))

/-- The command that a formula is, if it is one by name. -/
def commandOf? : Expr → Option Command
  | .operation name _ =>
    match Op.named? name with
    | some (.command command) => some command
    | _ => none
  | _ => none

/-- Runs one line of input. -/
def interpret (node : Expr) : Action Expr :=
  match commandOf? node with
  | some command => do
    log (.running command)
    runCommand command node
  | none => reduce node

/-- Runs one line of input and binds a name to its result. A failure binds nothing. -/
def assign (name : String) (node : Expr) : Action Expr := do
  let result ← interpret node
  bindName name result
  return result

end Session

end GraphCalc

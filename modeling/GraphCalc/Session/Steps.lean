import GraphCalc.Session.Dispatch

/-!
# Steps

The requests that a session can be sent, blocks of requests under a scoped binding among them, and what
is seen of each: its outcome, and the bindings and the number of recorded plots after it. A failing step
does not end a session. A block either goes on after a failing step as well, or is left by its error.
-/

namespace GraphCalc

inductive Step where
  | bind (name : String) (value : Operand)
  | unbind (name : String)
  | lookup (name : String)
  | contains (name : String)
  | size
  | describe
  | resolve (name : String) (chain : List String)
  | evaluate (value : Operand)
  | simplify (value : Operand)
  | isCalculable (value : Operand)
  | unboundNames (e : Expr)
  | sample (request : PlotRequest)
  | plot (request : PlotRequest)
  | runCommand (command : Command) (node : Expr)
  | interpret (value : Operand)
  | assign (name : String) (node : Expr)
  | last
  | calls
  /-- Steps while a name is bound; `propagate` says that the first failure ends them. -/
  | block (name : String) (value : Operand) (steps : List Step) (propagate : Bool)

/-- What is seen after a step. -/
structure Observation (α : Type) where
  outcome : Except CalcError α
  bindings : Bindings
  /-- The number of plots that the recorder holds. -/
  calls : Nat

inductive Outcome where
  | done
  | found (e : Option Expr)
  | flag (b : Bool)
  | count (n : Nat)
  | line (text : String)
  | link (bound : Expr) (chain : List String)
  | value (x : Float)
  | formula (e : Expr)
  | names (set : NameSet)
  | series (s : Series)
  | call (c : RenderCall)
  | calls (list : List RenderCall)
  /-- The steps of a block that were seen inside it, and the error that left it. -/
  | block (inside : List (Observation Outcome)) (raised : Option CalcError)

namespace Session

variable {α : Type}

def observe (s : Session) (outcome : Except CalcError α) : Observation α :=
  ⟨outcome, s.bindings, s.recorder.calls.length⟩

end Session

namespace Step

open Session

variable [MathLibrary]

mutual

def run : Step → Action Outcome
  | bind name value => do
    bindName name (← .ofExcept value.toExpr)
    return .done
  | unbind name => return .found (← unbindName name)
  | lookup name => return .found ((← get).bindings.find? name)
  | contains name => return .flag ((← get).bindings.contains name)
  | size => return .count (← get).bindings.size
  | describe => return .line (← get).describe
  | resolve name chain => do
    let (bound, extended) ← .query (·.resolve name chain)
    return .link bound extended
  | evaluate value => return .value (← Session.evaluate (← .ofExcept (value.formulaOr .notEvaluable)))
  | simplify value => return .formula (← reduce (← .ofExcept (value.formulaOr .notSimplifiable)))
  | isCalculable (.formula e) => return .flag (← .query (·.isCalculable [] e))
  | isCalculable (.loose _) => return .flag false
  | unboundNames e => return .names (← .query (·.unboundNames [] e))
  | sample request => return .series (← Session.sample request)
  | plot request => return .formula (← Session.plot request)
  | runCommand command node => return .formula (← Session.runCommand command node)
  | interpret value => return .formula (← Session.interpret (← .ofExcept (value.formulaOr .notSimplifiable)))
  | assign name node => return .formula (← Session.assign name node)
  | last => return .call (← .ofExcept (← get).recorder.last)
  | calls => return .calls (← get).recorder.calls
  | block name value steps propagate =>
    match value.toExpr with
    | .error e => return .block [] (some e)
    | .ok bound =>
      withBinding name bound <| ExceptT.mk fun s =>
        let ((inside, raised), after) := runAll propagate steps s
        (.ok (.block inside raised), after)

/-- Runs steps in turn and collects what is seen after each. With `propagate` the first failure ends
the run and is returned apart. -/
def runAll (propagate : Bool) :
    List Step → Session → (List (Observation Outcome) × Option CalcError) × Session
  | [], s => (([], none), s)
  | step :: rest, s =>
    match propagate, step.run.runIn s with
    | true, (.error e, after) => (([], some e), after)
    | _, (outcome, after) =>
      let ((seen, raised), final) := runAll propagate rest after
      ((after.observe outcome :: seen, raised), final)

end

end Step

end GraphCalc

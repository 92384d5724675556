import GraphCalc.Folds
import GraphCalc.Settings

/-!
# Log events

What a session reports about its own work as it goes along, each event with the part of the calculator
that it comes from and a line of text. All events are of the level `DEBUG`.
-/

namespace GraphCalc

/-- The parts of the calculator that report events. -/
inductive EventSource where
  | bindings
  | evaluation
  | simplification
  | plotting
  | dispatch
deriving DecidableEq, Repr

inductive Event where
  /-- A name was bound for the time of a block. -/
  | bound (name : String)
  /-- The time of a block is over. -/
  | released (name : String)
  | folded (fold : Bindings.Fold)
  | evaluated (formula : Expr) (value : Float)
  | sampled (body : Expr) (count : Nat) (minimum maximum : Float)
  | running (command : Command)

namespace Event

def source : Event → EventSource
  | bound _ | released _ => .bindings
  | folded _ => .simplification
  | evaluated _ _ => .evaluation
  | sampled _ _ _ _ => .plotting
  | running _ => .dispatch

def level : Event → LogLevel := fun _ => .debug

def message : Event → String
  | bound name => "Bound " ++ name ++ " temporarily"
  | released name => "Released temporary binding of " ++ name
  | folded fold => "Folded " ++ fold.formula.text ++ " to " ++ Double.text fold.value
  | evaluated formula value => "toDouble(" ++ formula.text ++ ") = " ++ Double.text value
  | sampled body count minimum maximum =>
    "Sampled " ++ body.text ++ " at " ++ toString count ++ " point(s) over [" ++
      Double.text minimum ++ ", " ++ Double.text maximum ++ "]"
  | running command => "Running " ++ command.name ++ " command"

end Event

end GraphCalc

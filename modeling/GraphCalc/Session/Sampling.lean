import GraphCalc.Double.Order
import GraphCalc.Session.Basic

/-!
# Sampling and plotting

A plot request names a formula, the name to sample over, a range and a step. The range and the step are
formulas themselves and are worked out first. Sampling binds the name to one position after the other,
from the minimum on as far as the maximum, works the formula out at each, and leaves the bindings as
they were.

The positions are `minimum + i * step`, each computed from the start and not from the one before. The
sampling ends because a position that is not a larger double than the one before is an error, and there
are only finitely many doubles below the maximum.
-/

namespace GraphCalc

/-- What is asked of a plot, each part as the caller gave it. -/
structure PlotRequest where
  body : Operand
  parameter : Operand
  minimum : Operand
  maximum : Operand
  step : Operand

/-- The name to sample over; nothing but a name will do. -/
def PlotRequest.parameterName (request : PlotRequest) : Except CalcError String :=
  match request.parameter with
  | .formula (.var name) => .ok name
  | other => .error (.notAVariable other.display)

/-- A range of doubles with a step. -/
structure Grid where
  minimum : Float
  maximum : Float
  step : Float

/-- The position of a sample. -/
def Grid.point (grid : Grid) : Nat → Float
  | 0 => grid.minimum
  | i + 1 => grid.minimum + Double.ofNat (i + 1) * grid.step

namespace Grid

variable {m : Type → Type} [Monad m] [MonadExcept CalcError m]

/-- The values of a function over a grid, from one index on. To work out a value may be any computation that can fail.
Each position has to lead to a larger double, which is found out after the value. -/
def tabulate (grid : Grid) (f : Float → m Float) (i : Nat) : m (List (Float × Float)) := do
  if _inside : grid.point i ≤ grid.maximum then
    let y ← f (grid.point i)
    if _advance : grid.point i < grid.point (i + 1) then
      return (grid.point i, y) :: (← tabulate grid f (i + 1))
    else throw (.stepTooSmall grid.step (grid.point i))
  else return []
termination_by (Double.rank grid.maximum + 1 - Double.rank (grid.point i)).toNat
decreasing_by
  have := Double.rank_le_rank _inside
  have := Double.rank_lt_rank _advance
  omega

theorem tabulate_inside {grid : Grid} {i : Nat} (f : Float → m Float) (inside : grid.point i ≤ grid.maximum) :
    grid.tabulate f i = (do
      let y ← f (grid.point i)
      if grid.point i < grid.point (i + 1) then return (grid.point i, y) :: (← grid.tabulate f (i + 1))
      else throw (.stepTooSmall grid.step (grid.point i))) := by
  rw [tabulate, dif_pos inside]
  simp only [dite_eq_ite]

theorem tabulate_outside {grid : Grid} {i : Nat} (f : Float → m Float) (outside : ¬grid.point i ≤ grid.maximum) :
    grid.tabulate f i = return [] := by
  rw [tabulate, dif_neg outside]

end Grid

namespace Session

variable [MathLibrary]

/-- The value of a formula at a position. The name stands for the position from here on. -/
def evaluateAt (name : String) (body : Expr) (x : Float) : Action Float := do
  bindName name (.number x)
  evaluate body

/-- Samples from one index on. That the positions have to go up is what ends the sampling, on any grid. On a grid that
has passed the checks they never go down, so no more is asked there than that the next position is another double:
`samplePoints_eq_of_valid`. -/
def samplePoints (name : String) (body : Expr) (grid : Grid) (i : Nat) : Action (List (Float × Float)) :=
  grid.tabulate (evaluateAt name body) i

/-- The range and the step of a request, worked out in this order. -/
def gridOf (request : PlotRequest) : Action Grid := do
  let minimum ← evaluate (← .ofExcept request.minimum.toExpr)
  let maximum ← evaluate (← .ofExcept request.maximum.toExpr)
  let step ← evaluate (← .ofExcept request.step.toExpr)
  return { minimum, maximum, step }

/-- Refuses a range that is empty or unbounded, a name that is taken, and a step that does not go up, in
this order. -/
def checkGrid (name : String) (grid : Grid) : Action Unit := do
  if grid.maximum < grid.minimum ∨ ¬(grid.minimum.isFinite ∧ grid.maximum.isFinite) then
    throw (.invalidRange grid.minimum grid.maximum)
  if (← get).bindings.contains name then throw (.alreadyBound name)
  if ¬0 < grid.step then throw (.stepNotPositive grid.step)

/-- Refuses a formula that mentions names without a binding, under a binding of the sampled one. -/
def checkBody (name : String) (body : Expr) : Action Unit := do
  withBinding name (.number (← get).settings.placeholder) do
    let missing ← .query (·.unboundNames [] body)
    if missing.names ≠ [] then throw (.undefinedInPlot missing.names)

/-- The samples of a request. The first fault in the order of the checks is the one reported. -/
def sample (request : PlotRequest) : Action Series := do
  let name ← .ofExcept request.parameterName
  let body ← .ofExcept request.body.toExpr
  let grid ← gridOf request
  checkGrid name grid
  checkBody name body
  let points ← withBinding name (.number grid.minimum) (samplePoints name body grid 0)
  log (.sampled body points.length grid.minimum grid.maximum)
  return .ofPoints points

/-- Samples a request and hands the points to the recorder. A plot is worth the placeholder. -/
def plot (request : PlotRequest) : Action Expr := do
  let series ← sample request
  let parameter ← .ofExcept request.parameterName
  let s ← get
  let call : RenderCall :=
    { label := s.settings.seriesLabel, parameter, outputId := s.settings.outputId, series }
  set { s with recorder := s.recorder.record call }
  return .number s.settings.placeholder

end Session

end GraphCalc

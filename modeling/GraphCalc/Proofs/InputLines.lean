import GraphCalc.Proofs.Renders

/-!
# What comes of a line of input

A line of input is answered with a formula or with an error, and either is a function of the bindings and the
settings that the line meets: `result_interpret` says which. Sampling is the one part with many ways to fail.
`sampleFault_of_error` lists them: the request is refused for what it asks, or one of its formulas fails where
it is worked out.
-/

namespace GraphCalc

open Results

variable {error : CalcError}

/-- The refusals of plots: for the name to sample over, for the range, for the step, and for names that stand
for nothing. -/
inductive PlotRefusal : CalcError → Prop
  | notAVariable (found : String) : PlotRefusal (.notAVariable found)
  | invalidRange (minimum maximum : Float) : PlotRefusal (.invalidRange minimum maximum)
  | alreadyBound (name : String) : PlotRefusal (.alreadyBound name)
  | stepNotPositive (step : Float) : PlotRefusal (.stepNotPositive step)
  | stepTooSmall (step position : Float) : PlotRefusal (.stepTooSmall step position)
  | undefinedInPlot (names : List String) : PlotRefusal (.undefinedInPlot names)

theorem PlotRequest.refusal_of_parameterName {request : PlotRequest}
    (failed : request.parameterName = .error error) : PlotRefusal error := by
  unfold parameterName at failed
  split at failed <;> cases failed
  exact .notAVariable _

/-- A table has a fault where the function has one, or where the step leads nowhere. -/
theorem Grid.fault_of_tabulate {grid : Grid} {f : Float → Except CalcError Float} {i : Nat}
    (failed : grid.tabulate f i = .error error) :
    (∃ k, f (grid.point k) = .error error) ∨ ∃ k, error = .stepTooSmall grid.step (grid.point k) := by
  fun_induction Grid.tabulate grid f i with
  | case1 i inside ih =>
    rcases bind_eq_error_iff.mp failed with value | ⟨y, _, rest⟩
    · exact .inl ⟨i, value⟩
    · split at rest
      · rename_i advance
        rcases bind_eq_error_iff.mp rest with later | ⟨_, _, none⟩
        · exact ih advance later
        · cases none
      · cases rest
        exact .inr ⟨i, rfl⟩
  | case2 => cases failed

namespace Bindings

variable {E : Bindings} {request : PlotRequest} {name : String} {grid : Grid} {body : Expr}

theorem checkGrid_eq (E : Bindings) (name : String) (grid : Grid) :
    E.checkGrid name grid =
      if grid.maximum < grid.minimum ∨ ¬(grid.minimum.isFinite ∧ grid.maximum.isFinite) then
        .error (.invalidRange grid.minimum grid.maximum)
      else if E.contains name then .error (.alreadyBound name)
      else if ¬0 < grid.step then .error (.stepNotPositive grid.step)
      else .ok () := rfl

theorem refusal_of_checkGrid (failed : E.checkGrid name grid = .error error) : PlotRefusal error := by
  rw [checkGrid_eq] at failed
  split at failed
  · cases failed
    exact .invalidRange ..
  · split at failed
    · cases failed
      exact .alreadyBound _
    · split at failed <;> cases failed
      exact .stepNotPositive _

theorem fault_of_checkBody (failed : E.checkBody body = .error error) :
    E.unboundNames [] body = .error error ∨ PlotRefusal error := by
  rcases bind_eq_error_iff.mp failed with walk | ⟨missing, _, rest⟩
  · exact .inl walk
  · split at rest <;> cases rest
    exact .inr (.undefinedInPlot _)

variable [MathLibrary]

/-- Why the samples of a request are none. -/
inductive SampleFault (E : Bindings) (request : PlotRequest) : CalcError → Prop
  | refusal {error : CalcError} (refusal : PlotRefusal error) : SampleFault E request error
  /-- A part of the request is no formula. -/
  | operand {operand : Operand} {error : CalcError}
      (part : operand ∈ [request.body, request.minimum, request.maximum, request.step])
      (refused : operand.toExpr = .error error) : SampleFault E request error
  /-- The range or the step has no value. -/
  | range {e : Expr} {error : CalcError} (failed : E.toDouble [] e = .error error) :
      SampleFault E request error
  /-- The search for unbound names fails while the sampled name stands for a double. -/
  | search {name : String} {body : Expr} {x : Float} {error : CalcError}
      (failed : unboundNames (E.insert name (.number x)) [] body = .error error) :
      SampleFault E request error
  /-- A sample has no value. -/
  | position {name : String} {body : Expr} {x : Float} {error : CalcError}
      (failed : E.valueAt name body x = .error error) : SampleFault E request error

theorem sampleFault_of_gridOf (failed : E.gridOf request = .error error) :
    SampleFault E request error := by
  rcases bind_eq_error_iff.mp failed with refused | ⟨minimum, _, rest⟩
  · exact .operand (by simp) refused
  rcases bind_eq_error_iff.mp rest with worked | ⟨_, _, rest⟩
  · exact .range worked
  rcases bind_eq_error_iff.mp rest with refused | ⟨maximum, _, rest⟩
  · exact .operand (by simp) refused
  rcases bind_eq_error_iff.mp rest with worked | ⟨_, _, rest⟩
  · exact .range worked
  rcases bind_eq_error_iff.mp rest with refused | ⟨step, _, rest⟩
  · exact .operand (by simp) refused
  rcases bind_eq_error_iff.mp rest with worked | ⟨_, _, none⟩
  · exact .range worked
  · cases none

theorem sampleFault_of_error {settings : Settings}
    (failed : E.sampled settings request = .error error) : SampleFault E request error := by
  rcases bind_eq_error_iff.mp failed with named | ⟨name, _, rest⟩
  · exact .refusal (request.refusal_of_parameterName named)
  rcases bind_eq_error_iff.mp rest with refused | ⟨body, _, rest⟩
  · exact .operand (by simp) refused
  rcases bind_eq_error_iff.mp rest with worked | ⟨grid, _, rest⟩
  · exact sampleFault_of_gridOf worked
  rcases bind_eq_error_iff.mp rest with checked | ⟨_, _, rest⟩
  · exact .refusal (refusal_of_checkGrid checked)
  rcases bind_eq_error_iff.mp rest with searched | ⟨_, _, rest⟩
  · exact (fault_of_checkBody searched).elim .search .refusal
  rcases bind_eq_error_iff.mp rest with tabulated | ⟨_, _, none⟩
  · rcases Grid.fault_of_tabulate tabulated with ⟨_, position⟩ | ⟨_, rfl⟩
    · exact .position position
    · exact .refusal (.stepTooSmall ..)
  · cases none

/-- What comes of a request. -/
def answer (E : Bindings) (settings : Settings) : Request → Except CalcError Expr
  | .toDouble e => do return .number (← E.toDouble [] e)
  | .simplify e => E.simplify [] e
  | .plot request => do
    let _ ← E.sampled settings request
    return .number settings.placeholder

/-- What comes of a formula that is run as a command. -/
def answerCommand (E : Bindings) (settings : Settings) (command : Command) (node : Expr) :
    Except CalcError Expr := do
  E.answer settings (← command.requestOf node)

/-- What comes of a line of input. -/
def answerLine (E : Bindings) (settings : Settings) (node : Expr) : Except CalcError Expr :=
  match Session.commandOf? node with
  | some command => E.answerCommand settings command node
  | none => E.simplify [] node

end Bindings

namespace Session

open GraphCalc.Action

/-- A formula is a command by its name, whatever its arguments. -/
theorem commandOf?_eq_some_iff {node : Expr} {command : Command} :
    commandOf? node = some command ↔ ∃ args, node = .operation command.name args := by
  constructor
  · intro known
    unfold commandOf? at known
    split at known
    · rename_i name args
      split at known
      · rename_i found
        cases known
        exact ⟨args, by rw [← Op.named?_eq_some_iff.mp found]; rfl⟩
      · cases known
    · cases known
  · rintro ⟨args, rfl⟩
    have found : Op.named? command.name = some (.command command) := Op.named?_eq_some_iff.mpr rfl
    simp only [commandOf?, found]

variable [MathLibrary]

theorem result_plot (request : PlotRequest) (s : Session) :
    ((plot request).runIn s).1 = s.bindings.answer s.settings (.plot request) := by
  obtain ⟨journal, ran⟩ := draws_plot s request
  rw [ran, rendering_eq, Bindings.answer]
  cases value : s.bindings.sampled s.settings request with
  | error error => rfl
  | ok series =>
    -- samples are there only for a name, so the name is found again
    obtain ⟨name, named, _⟩ := bind_eq_ok_iff.mp value
    rw [named]
    rfl

theorem result_perform (request : Request) (s : Session) :
    ((perform request).runIn s).1 = s.bindings.answer s.settings request := by
  cases request with
  | toDouble e =>
    show ((perform (.toDouble e)).runIn s).1 = (s.bindings.toDouble [] e >>= fun x => pure (.number x))
    have evaluated : (evaluate e).runIn s = (s.bindings.toDouble [] e, s) := rfl
    rw [perform, runIn_bind, evaluated]
    cases s.bindings.toDouble [] e <;> rfl
  | simplify e => rfl
  | plot request => exact result_plot request s

theorem result_runCommand (command : Command) (node : Expr) (s : Session) :
    ((runCommand command node).runIn s).1 = s.bindings.answerCommand s.settings command node := by
  rw [runCommand, Bindings.answerCommand]
  cases asked : command.requestOf node with
  | error error => rfl
  | ok request => exact result_perform request s

/-- What comes of a line of input is a function of the bindings and the settings. -/
theorem result_interpret (node : Expr) (s : Session) :
    ((interpret node).runIn s).1 = s.bindings.answerLine s.settings node := by
  unfold interpret Bindings.answerLine
  cases commandOf? node with
  | none => rfl
  | some command => exact result_runCommand command node (s.report (.running command))

end Session

end GraphCalc

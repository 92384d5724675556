import GraphCalc.Proofs.Results
import GraphCalc.Proofs.Tabulation

/-!
# The renders of plots

A plot that succeeds hands one render to the recorder; a plot that fails hands over nothing. `Draws` says
so of an action, together with what the action returns and with all else that it leaves alone but the
journal. `draws_plot` is about plots as such, `draws_interpret` and `draws_runCommand` about plot commands.
-/

namespace GraphCalc

/-- The plot that a formula asks for, if it is a plot command with the arguments that it takes. -/
def plotOf? (node : Expr) : Option PlotRequest :=
  match Command.plot.requestOf node with
  | .ok (.plot request) => some request
  | _ => none

theorem plotOf?_eq_some_iff {node : Expr} {request : PlotRequest} :
    plotOf? node = some request ↔ ∃ body parameter minimum maximum step,
      node = .operation Command.plot.name [body, parameter, minimum, maximum, step] ∧
        request = .ofExprs body parameter minimum maximum step := by
  constructor
  · intro asked
    unfold plotOf? at asked
    split at asked
    · rename_i requested
      cases asked
      unfold Command.requestOf at requested
      split at requested
      · split at requested
        · rename_i named
          subst named
          split at requested <;> cases requested
          exact ⟨_, _, _, _, _, rfl, rfl⟩
        · cases requested
      · cases requested
    · cases asked
  · rintro ⟨body, parameter, minimum, maximum, step, rfl, rfl⟩
    rfl

theorem PlotRequest.parameterName_eq_ok_iff {request : PlotRequest} {name : String} :
    request.parameterName = .ok name ↔ request.parameter = .formula (.var name) := by
  unfold parameterName
  split <;> simp_all

namespace Session

open GraphCalc.Action

variable [MathLibrary]

/-- The render that a plot is for: the samples under the label, for the place and the name that they
belong to. -/
def rendering (s : Session) (request : PlotRequest) : Except CalcError RenderCall := do
  let series ← ((sample request).runIn s).1
  let parameter ← request.parameterName
  return { label := s.settings.seriesLabel, parameter, outputId := s.settings.outputId, series }

/-- What a plot leaves behind: with a render, the recorder has one more and the plot is worth the
placeholder; with an error, only events may have been reported. -/
def drawn (s : Session) (outcome : Except CalcError RenderCall) (journal : List Event) :
    Except CalcError Expr × Session :=
  match outcome with
  | .ok call =>
    (.ok (.number s.settings.placeholder), { s with recorder := s.recorder.record call, journal })
  | .error e => (.error e, { s with journal })

/-- From a session, an action does what a plot with a certain outcome does. -/
def Draws (s : Session) (action : Action Expr) (outcome : Except CalcError RenderCall) : Prop :=
  ∃ journal, action.runIn s = s.drawn outcome journal

theorem rendering_eq (s : Session) (request : PlotRequest) :
    s.rendering request = do
      let series ← s.bindings.sampled s.settings request
      let parameter ← request.parameterName
      return { label := s.settings.seriesLabel, parameter, outputId := s.settings.outputId, series } := by
  obtain ⟨journal, ran⟩ := runIn_sample request s
  rw [rendering, ran]

/-- What a render consists of. -/
theorem rendering_eq_ok_iff {s : Session} {request : PlotRequest} {call : RenderCall} :
    s.rendering request = .ok call ↔
      ((sample request).runIn s).1 = .ok call.series ∧
        request.parameter = .formula (.var call.parameter) ∧
        call.label = s.settings.seriesLabel ∧ call.outputId = s.settings.outputId := by
  unfold rendering
  rw [Results.bind_eq_ok_iff]
  constructor
  · rintro ⟨series, sampled, rest⟩
    obtain ⟨parameter, named, same⟩ := Results.bind_eq_ok_iff.mp rest
    cases same
    exact ⟨sampled, PlotRequest.parameterName_eq_ok_iff.mp named, rfl, rfl⟩
  · rintro ⟨sampled, named, label, place⟩
    refine ⟨call.series, sampled, ?_⟩
    rw [PlotRequest.parameterName_eq_ok_iff.mpr named, ← label, ← place]
    rfl

/-- What has been reported before makes no difference to a plot. -/
theorem rendering_report (s : Session) (event : Event) (request : PlotRequest) :
    (s.report event).rendering request = s.rendering request := by
  rw [rendering_eq, rendering_eq]
  rfl

theorem draws_plot (s : Session) (request : PlotRequest) :
    Draws s (plot request) (s.rendering request) := by
  obtain ⟨journal, ran⟩ := runIn_sample request s
  refine ⟨journal, ?_⟩
  rw [rendering_eq]
  cases value : s.bindings.sampled s.settings request with
  | error e =>
    rw [value] at ran
    exact runIn_bind_of_error ran
  | ok series =>
    rw [value] at ran
    refine (runIn_bind_of_ok ran).trans ?_
    cases request.parameterName <;> rfl

theorem draws_runCommand {node : Expr} {request : PlotRequest} (asked : plotOf? node = some request)
    (s : Session) : Draws s (runCommand .plot node) (s.rendering request) := by
  obtain ⟨body, parameter, minimum, maximum, step, rfl, rfl⟩ := plotOf?_eq_some_iff.mp asked
  exact draws_plot s _

/-- A line that is a plot command plots. -/
theorem draws_interpret {node : Expr} {request : PlotRequest} (asked : plotOf? node = some request)
    (s : Session) : Draws s (interpret node) (s.rendering request) := by
  obtain ⟨journal, ran⟩ := draws_runCommand asked (s.report (.running .plot))
  rw [rendering_report] at ran
  obtain ⟨body, parameter, minimum, maximum, step, rfl, rfl⟩ := plotOf?_eq_some_iff.mp asked
  exact ⟨journal, ran⟩

end Session

end GraphCalc

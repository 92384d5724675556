import GraphCalc.Proofs.Renders
import GraphCalc.Session.Steps
import Mathlib.Data.List.DropRight

/-!
# Recorded plots of a session

What the recorder holds after any steps, failing ones and nested blocks included. The plots of a run are
listed beside it, each with the session that it is made in: `Step.plots` follows `Step.run` for this. One step
hands the renders of its plots to the recorder, in order, and does nothing else to it, and so does a run of
steps. `recorder_holds_latest_plots` draws the conclusion.

An error that leaves a block is caught right behind it. A program that lets it leave several blocks does to
the recorder what the steps do that remain once those passed over are left out, so it is covered as well;
`Recorded.withBinding` does not even ask how a block ends.
-/

namespace GraphCalc

open GraphCalc.Action Session

namespace Step

/-- The plot that a step asks for, blocks apart. -/
def request? : Step → Option PlotRequest
  | plot request => some request
  | runCommand .plot node | interpret (.formula node) | assign _ node => plotOf? node
  | _ => none

variable [MathLibrary]

mutual

/-- The plots that a step makes or fails to make, in order, each with the session that it starts from. -/
def plots : Step → Session → List (Session × PlotRequest)
  | block name value steps propagate, s =>
    match value.toExpr with
    | .error _ => []
    | .ok bound => plotsOfAll propagate steps ((s.bind name bound).report (.bound name))
  | step, s => step.request?.toList.map (s, ·)

/-- The plots of steps that run in turn. With `propagate` the first failure ends them. -/
def plotsOfAll (propagate : Bool) : List Step → Session → List (Session × PlotRequest)
  | [], _ => []
  | step :: rest, s =>
    step.plots s ++
      match propagate, step.run.runIn s with
      | true, (.error _, _) => []
      | _, (_, after) => plotsOfAll propagate rest after

end

/-- The renders of those plots that succeed. -/
def renders (plots : List (Session × PlotRequest)) : List RenderCall :=
  plots.filterMap fun (s, request) => (s.rendering request).toOption

theorem renders_append (older newer : List (Session × PlotRequest)) :
    renders (older ++ newer) = renders older ++ renders newer :=
  List.filterMap_append ..

end Step

namespace Session

open GraphCalc.Step

variable {α β : Type} {s t u : Session} {action : Action α}
  {plots older newer : List (Session × PlotRequest)}

/-- What renders go through: the recorder, and the settings that say how to label them. -/
def recording (s : Session) : Recorder × Settings := (s.recorder, s.settings)

theorem recording_restore (s : Session) (name : String) (previous : Option Expr) :
    (s.restore name previous).recording = s.recording := by
  cases previous <;> rfl

theorem requestOf_eq_plot {command : Command} {node : Expr} {request : PlotRequest}
    (requested : command.requestOf node = .ok (.plot request)) :
    command = .plot ∧ plotOf? node = some request := by
  have named : command = .plot := by
    unfold Command.requestOf at requested
    split at requested
    · split at requested
      · split at requested <;> first | rfl | cases requested
      · cases requested
    · cases requested
  subst named
  refine ⟨rfl, ?_⟩
  unfold plotOf?
  rw [requested]

variable [MathLibrary]

/-- Between two sessions plots were made, and nothing but their renders has got into the recorder. -/
structure Recorded (s t : Session) (plots : List (Session × PlotRequest)) : Prop where
  recorder : t.recorder = (renders plots).foldl .record s.recorder
  settings : t.settings = s.settings
  each : ∀ plot ∈ plots, plot.1.settings = s.settings

theorem Recorded.nothing (same : t.recording = s.recording) : Recorded s t [] :=
  ⟨congrArg (·.1) same, congrArg (·.2) same, by simp⟩

theorem Recorded.trans (first : Recorded s t older) (second : Recorded t u newer) :
    Recorded s u (older ++ newer) := by
  refine ⟨?_, second.settings.trans first.settings, fun plot member => ?_⟩
  · rw [second.recorder, first.recorder, renders_append, List.foldl_append]
  · rcases List.mem_append.mp member with early | late
    · exact first.each plot early
    · exact (second.each plot late).trans first.settings

theorem Recorded.of_keeps (keeps : Keeps recording action) (s : Session) :
    Recorded s (action.runIn s).2 [] := .nothing (keeps s)

/-- One plot is recorded exactly if it comes to a render. -/
theorem Recorded.of_draws {action : Action Expr} {request : PlotRequest}
    (draws : Draws s action (s.rendering request)) :
    Recorded s (action.runIn s).2 [(s, request)] := by
  obtain ⟨journal, ran⟩ := draws
  rw [ran]
  refine ⟨?_, ?_, fun plot member => ?_⟩
  · cases outcome : s.rendering request <;> simp [drawn, renders, outcome, Except.toOption]
  · cases s.rendering request <;> rfl
  · rw [List.mem_singleton.mp member]

/-- What follows and leaves the recorder alone does not count. -/
theorem Recorded.bind {next : α → Action β} (first : Recorded s (action.runIn s).2 plots)
    (rest : ∀ a, Keeps recording (next a)) :
    Recorded s ((action >>= next).runIn s).2 plots := by
  rcases ran : action.runIn s with ⟨_ | a, t⟩ <;> rw [ran] at first
  · rw [runIn_bind_of_error ran]
    exact first
  · rw [runIn_bind_of_ok ran]
    simpa using first.trans (.of_keeps (rest a) t)

/-- Under a scoped binding the same plots are recorded, whether the action inside returns or fails. -/
theorem Recorded.withBinding {name : String} {e : Expr}
    (inside : let entered := (s.bind name e).report (.bound name)
      Recorded entered (action.runIn entered).2 plots) :
    Recorded s ((withBinding name e action).runIn s).2 plots := by
  let entered := (s.bind name e).report (.bound name)
  let worked := (action.runIn entered).2
  let left := (worked.restore name (s.bindings.find? name)).report (.released name)
  have entering : Recorded s entered [] := .nothing rfl
  have leaving : Recorded worked left [] := .nothing (recording_restore worked name _)
  have whole := (entering.trans inside).trans leaving
  rw [List.nil_append, List.append_nil] at whole
  exact whole

theorem keepsRecording_sample (request : PlotRequest) : Keeps recording (sample request) := by
  intro s
  obtain ⟨journal, ran⟩ := runIn_sample request s
  rw [ran]
  rfl

/-- A command that does not ask for a plot leaves the recorder alone, whether it is refused or runs. -/
theorem keepsRecording_runCommand {command : Command} {node : Expr}
    (other : command = .plot → plotOf? node = none) :
    Keeps recording (runCommand command node) := by
  intro s
  unfold runCommand
  cases requested : command.requestOf node with
  | error e => rfl
  | ok request =>
    cases request with
    | toDouble e =>
      have keeps : Keeps recording (perform (.toDouble e)) :=
        .bind (.query _) fun _ => .bind (.modify fun _ => rfl) fun _ => .pure _
      exact keeps s
    | simplify e => exact keeps_reduce (fun _ _ => rfl) e s
    | plot request =>
      obtain ⟨rfl, asked⟩ := requestOf_eq_plot requested
      cases (other rfl).symm.trans asked

theorem keepsRecording_interpret {node : Expr} (other : plotOf? node = none) :
    Keeps recording (interpret node) := by
  unfold interpret
  split
  · exact .bind (.modify fun _ => rfl) fun _ => keepsRecording_runCommand fun _ => other
  · exact keeps_reduce (fun _ _ => rfl) node

end Session

namespace Step

variable {step : Step}
variable [MathLibrary]

theorem keepsRecording_run (noPlot : step.request? = none)
    (leaf : ∀ name value steps propagate, step ≠ .block name value steps propagate) :
    Keeps recording step.run := by
  cases step with
  | bind name value =>
    exact .bind (.ofExcept _) fun _ => .bind (.modify fun _ => rfl) fun _ => .pure _
  | unbind name => exact fun s => rfl
  | lookup name | contains name | size | describe | calls => exact .bind .read fun _ => .pure _
  | resolve name chain => exact .bind (.query _) fun _ => .pure _
  | evaluate value => exact .bind (.ofExcept _) fun _ => .bind (.query _) fun _ => .pure _
  | simplify value =>
    exact .bind (.ofExcept _) fun _ => .bind (keeps_reduce (fun _ _ => rfl) _) fun _ => .pure _
  | isCalculable value =>
    cases value with
    | formula e => exact .bind (.query _) fun _ => .pure _
    | loose v => exact .pure _
  | unboundNames e => exact .bind (.query _) fun _ => .pure _
  | sample request => exact .bind (keepsRecording_sample request) fun _ => .pure _
  | plot request => cases noPlot
  | runCommand command node =>
    refine .bind (keepsRecording_runCommand ?_) fun _ => .pure _
    rintro rfl
    exact noPlot
  | interpret value =>
    cases value with
    | formula node =>
      have line : Keeps recording (do return Outcome.formula (← Session.interpret node)) :=
        .bind (keepsRecording_interpret noPlot) fun _ => .pure _
      exact fun s => line s
    | loose v => exact fun s => rfl
  | assign name node =>
    have whole : Keeps recording (Session.assign name node) :=
      .bind (keepsRecording_interpret noPlot) fun _ => .bind (.modify fun _ => rfl) fun _ => .pure _
    exact .bind whole fun _ => .pure _
  | last => exact .bind .read fun _ => .bind (.ofExcept _) fun _ => .pure _
  | block name value steps propagate => exact absurd rfl (leaf name value steps propagate)

/-- A step that asks for a plot makes it, and goes on to something that succeeds and leaves the recorder
alone. -/
theorem run_of_request {request : PlotRequest} (asked : step.request? = some request) (s : Session) :
    ∃ (action : Action Expr) (next : Expr → Action Outcome),
      Draws s action (s.rendering request) ∧ (∀ a t, ((next a).runIn t).1.isOk) ∧
        (∀ a, Keeps recording (next a)) ∧ step.run.runIn s = (action >>= next).runIn s := by
  let wrap (result : Expr) : Action Outcome := return .formula result
  cases step with
  | plot other =>
    cases asked
    exact ⟨_, wrap, draws_plot s request, fun _ _ => rfl, fun _ => .pure _, rfl⟩
  | runCommand command node =>
    cases command with
    | plot => exact ⟨_, wrap, draws_runCommand asked s, fun _ _ => rfl, fun _ => .pure _, rfl⟩
    | toDouble | simplify => cases asked
  | interpret value =>
    cases value with
    | formula node => exact ⟨_, wrap, draws_interpret asked s, fun _ _ => rfl, fun _ => .pure _, rfl⟩
    | loose v => cases asked
  | assign name node =>
    let next (result : Expr) : Action Outcome := do
      bindName name result
      wrap result
    refine ⟨_, next, draws_interpret asked s, fun _ _ => rfl, fun _ => ?_, ?_⟩
    · exact .bind (.modify fun _ => rfl) fun _ => .pure _
    · simp only [run, Session.assign, bind_assoc, pure_bind, next, wrap]
  | _ => cases asked

theorem recorded_of_request {request : PlotRequest} (asked : step.request? = some request)
    (s : Session) : Recorded s (step.run.runIn s).2 [(s, request)] := by
  obtain ⟨action, next, draws, _, keeps, ran⟩ := run_of_request asked s
  rw [ran]
  exact (Recorded.of_draws draws).bind keeps

/-- Such a step succeeds exactly where the plot comes to a render. -/
theorem isOk_run_of_request {request : PlotRequest} (asked : step.request? = some request)
    (s : Session) : (step.run.runIn s).1.isOk = (s.rendering request).isOk := by
  obtain ⟨action, next, ⟨journal, drew⟩, succeeds, _, ran⟩ := run_of_request asked s
  rw [ran]
  cases outcome : s.rendering request with
  | ok call =>
    rw [outcome] at drew
    rw [runIn_bind_of_ok drew]
    exact succeeds _ _
  | error e =>
    rw [outcome] at drew
    rw [runIn_bind_of_error drew]
    rfl

theorem recorded_of_leaf
    (leaf : ∀ name value steps propagate, step ≠ .block name value steps propagate) (s : Session) :
    Recorded s (step.run.runIn s).2 (step.plots s) := by
  have single : step.plots s = step.request?.toList.map (s, ·) := by
    rw [plots]
    exact leaf
  rw [single]
  cases asked : step.request? with
  | none => exact .of_keeps (keepsRecording_run asked leaf) s
  | some request => exact recorded_of_request asked s

/-- A block records what the steps inside it record. -/
theorem recorded_block {steps : List Step} {propagate : Bool}
    (inside : ∀ t, Recorded t (runAll propagate steps t).2 (plotsOfAll propagate steps t))
    (name : String) (value : Operand) (s : Session) :
    Recorded s ((block name value steps propagate).run.runIn s).2
      ((block name value steps propagate).plots s) := by
  rw [run, plots]
  cases value.toExpr with
  | error e => exact .nothing rfl
  | ok bound => exact Recorded.withBinding (inside _)

mutual

/-- Every step hands the renders of its plots to the recorder and does nothing else to it. -/
theorem recorded_run (step : Step) (s : Session) :
    Recorded s (step.run.runIn s).2 (step.plots s) := by
  cases step with
  | block name value steps propagate =>
    exact recorded_block (recorded_runAll propagate steps) name value s
  | _ => exact recorded_of_leaf (by simp) s

/-- A run of steps as well. -/
theorem recorded_runAll (propagate : Bool) (steps : List Step) (s : Session) :
    Recorded s (runAll propagate steps s).2 (plotsOfAll propagate steps s) := by
  cases steps with
  | nil => exact .nothing rfl
  | cons step rest =>
    have first := recorded_run step s
    rcases ran : step.run.runIn s with ⟨outcome, after⟩
    rw [ran] at first
    have onwards := first.trans (recorded_runAll propagate rest after)
    cases propagate with
    | false => simpa only [runAll, plotsOfAll, ran] using onwards
    | true =>
      cases outcome with
      | ok outcome => simpa only [runAll, plotsOfAll, ran] using onwards
      | error e => simpa [runAll, plotsOfAll, ran] using first

end

end Step

namespace Session

open GraphCalc.Step

/-- After any steps the recorder holds the most recent of all renders, as many as its limit allows, or all
without a limit: those that it held at the start, and those of the plots that succeeded. Each of these has
the label and the place of the settings, the name that is sampled over, and the very samples that sampling
returns for the plot in the session that it is made in. A step that asks for a plot succeeds exactly where
the plot comes to a render, and any step without a render leaves the recorder as it is. -/
theorem recorder_holds_latest_plots [MathLibrary] (s : Session) (propagate : Bool) (steps : List Step) :
    let plots := plotsOfAll propagate steps s
    let made := s.recorder.calls ++ renders plots
    ((runAll propagate steps s).2.recorder.calls =
        match s.recorder.limit with
        | none => made
        | some n => made.rtake n) ∧
      (∀ t request call, (t, request) ∈ plots → t.rendering request = .ok call →
        call.label = s.settings.seriesLabel ∧ call.outputId = s.settings.outputId ∧
          request.parameter = .formula (.var call.parameter) ∧
          ((sample request).runIn t).1 = .ok call.series) ∧
      (∀ (t : Session) (step : Step) request, step.request? = some request →
        (step.run.runIn t).1.isOk = (t.rendering request).isOk) ∧
      ∀ (t : Session) (step : Step), renders (step.plots t) = [] →
        (step.run.runIn t).2.recorder = t.recorder := by
  intro plots made
  have recorded := recorded_runAll propagate steps s
  refine ⟨?_, ?_, fun t step request asked => isOk_run_of_request asked t, fun t step noRender => ?_⟩
  · rw [recorded.recorder, Recorder.calls_foldl_record]
    cases s.recorder.limit <;> rfl
  · intro t request call member rendered
    obtain ⟨sampled, named, label, place⟩ := rendering_eq_ok_iff.mp rendered
    have settings : t.settings = s.settings := recorded.each _ member
    rw [settings] at label place
    exact ⟨label, place, named, sampled⟩
  · rw [(recorded_run step t).recorder, noRender]
    rfl

end Session

end GraphCalc

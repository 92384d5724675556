import GraphCalc.Proofs.Frames

/-!
# Sampling as tabulation

Sampling binds its name anew at every position and works on a session as it goes along. What comes of it
is nevertheless a function of the bindings and settings that it starts with: the table of the sampled
formula's values over the grid. `Reads` says this of any action, and it passes from the parts of an action
to the whole; `reads_sample` says it of sampling. Besides, only the journal changes.

The sampling loop is one for all computations that can fail, so the table over a grid is the same loop without a
session.
-/

namespace GraphCalc

namespace Bindings

variable [MathLibrary]

/-- The range and the step of a request. -/
def gridOf (E : Bindings) (request : PlotRequest) : Except CalcError Grid := do
  let minimum ← E.toDouble [] (← request.minimum.toExpr)
  let maximum ← E.toDouble [] (← request.maximum.toExpr)
  let step ← E.toDouble [] (← request.step.toExpr)
  return { minimum, maximum, step }

/-- The checks of a grid and of the name to sample over. -/
def checkGrid (E : Bindings) (name : String) (grid : Grid) : Except CalcError Unit := do
  if grid.maximum < grid.minimum ∨ ¬(grid.minimum.isFinite ∧ grid.maximum.isFinite) then
    throw (.invalidRange grid.minimum grid.maximum)
  if E.contains name then throw (.alreadyBound name)
  if ¬0 < grid.step then throw (.stepNotPositive grid.step)

/-- The check of a formula to plot, under bindings in which the sampled name is bound. -/
def checkBody (E : Bindings) (body : Expr) : Except CalcError Unit := do
  let missing ← E.unboundNames [] body
  if missing.names ≠ [] then throw (.undefinedInPlot missing.names)

/-- The value of a formula where a name stands for a double. -/
def valueAt (E : Bindings) (name : String) (body : Expr) (x : Float) : Except CalcError Float :=
  toDouble (E.insert name (.number x)) [] body

/-- What the name stood for otherwise makes no difference. -/
theorem valueAt_congr {E E' : Bindings} {name : String}
    (others : ∀ other, other ≠ name → E'.find? other = E.find? other) (body : Expr) :
    E'.valueAt name body = E.valueAt name body := by
  funext x
  have same : E'.insert name (.number x) = E.insert name (.number x) := by
    refine NameMap.ext fun other => ?_
    rw [NameMap.find?_insert, NameMap.find?_insert]
    split
    · rfl
    · exact others other ‹_›
  rw [valueAt, same, valueAt]

theorem valueAt_insert (E : Bindings) (name : String) (e body : Expr) :
    valueAt (E.insert name e) name body = E.valueAt name body :=
  valueAt_congr (fun other different => (NameMap.find?_insert E name other e).trans (if_neg different)) body

/-- The samples of a request. -/
def sampled (E : Bindings) (settings : Settings) (request : PlotRequest) :
    Except CalcError Series := do
  let name ← request.parameterName
  let body ← request.body.toExpr
  let grid ← E.gridOf request
  E.checkGrid name grid
  checkBody (E.insert name (.number settings.placeholder)) body
  let points ← grid.tabulate (E.valueAt name body) 0
  return .ofPoints points

end Bindings

namespace Session

variable {α : Type}

theorem runIn_withBinding (name : String) (e : Expr) (action : Action α) (s : Session) :
    (withBinding name e action).runIn s =
      let ran := action.runIn ((s.bind name e).report (.bound name))
      (ran.1, (ran.2.restore name (s.bindings.find? name)).report (.released name)) := rfl

/-- Restoring a name undoes what was done to that name alone. -/
theorem restore_of_hidden {s : Session} {name : String} {E : Bindings} {journal : List Event}
    (hidden : ∀ other, other ≠ name → E.find? other = s.bindings.find? other) :
    restore { s with bindings := E, journal } name (s.bindings.find? name) = { s with journal } := by
  have same : (restore { s with bindings := E, journal } name (s.bindings.find? name)).bindings =
      s.bindings := by
    refine NameMap.ext fun other => ?_
    rw [find?_restore]
    split
    · rename_i same
      rw [same]
    · exact hidden other ‹_›
  revert same
  cases s.bindings.find? name <;>
    exact fun same => congrArg (fun F => { s with bindings := F, journal }) same

end Session

namespace Action

variable {α β : Type}

/-- The result of an action is a function of the bindings and the settings that it meets, and the
action changes nothing but the journal. -/
def Reads (f : Bindings → Settings → Except CalcError α) (action : Action α) : Prop :=
  ∀ s, ∃ journal, action.runIn s = (f s.bindings s.settings, { s with journal })

/-- The same of an action that may also bind one name anew. -/
def ReadsBut (name : String) (f : Bindings → Settings → Except CalcError α) (action : Action α) :
    Prop :=
  ∀ s, ∃ E journal, action.runIn s = (f s.bindings s.settings, { s with bindings := E, journal }) ∧
    ∀ other, other ≠ name → E.find? other = s.bindings.find? other

theorem Reads.pure (a : α) : Reads (fun _ _ => .ok a) (pure a) := fun s => ⟨s.journal, rfl⟩

theorem Reads.throw (e : CalcError) : Reads (fun _ _ => .error e) (throw e : Action α) :=
  fun s => ⟨s.journal, rfl⟩

theorem Reads.ofExcept (result : Except CalcError α) : Reads (fun _ _ => result) (.ofExcept result) :=
  fun s => ⟨s.journal, rfl⟩

theorem Reads.query (f : Bindings → Except CalcError α) : Reads (fun E _ => f E) (.query f) :=
  fun s => ⟨s.journal, rfl⟩

theorem Reads.log (event : Event) : Reads (fun _ _ => .ok ()) (Session.log event) :=
  fun s => ⟨s.journal ++ [event], rfl⟩

theorem runIn_bind_of_ok {action : Action α} {next : α → Action β} {s t : Session} {a : α}
    (ran : action.runIn s = (.ok a, t)) : (action >>= next).runIn s = (next a).runIn t := by
  rw [runIn_bind, ran]

theorem runIn_bind_of_error {action : Action α} {next : α → Action β} {s t : Session}
    {e : CalcError} (ran : action.runIn s = (.error e, t)) :
    (action >>= next).runIn s = (.error e, t) := by
  rw [runIn_bind, ran]

theorem Reads.bind {f : Bindings → Settings → Except CalcError α}
    {g : α → Bindings → Settings → Except CalcError β} {action : Action α} {next : α → Action β}
    (first : Reads f action) (rest : ∀ a, Reads (g a) (next a)) :
    Reads (fun E settings => f E settings >>= fun a => g a E settings) (action >>= next) := by
  intro s
  obtain ⟨journal, ran⟩ := first s
  dsimp only
  cases value : f s.bindings s.settings with
  | error e =>
    rw [value] at ran
    exact ⟨journal, runIn_bind_of_error ran⟩
  | ok a =>
    rw [value] at ran
    rw [runIn_bind_of_ok ran]
    exact rest a { s with journal }

theorem Reads.ite {condition : Prop} [Decidable condition]
    {f g : Bindings → Settings → Except CalcError α} {yes no : Action α} (first : Reads f yes)
    (second : Reads g no) :
    Reads (fun E settings => if condition then f E settings else g E settings)
      (if condition then yes else no) := by
  split
  · exact first
  · exact second

theorem Reads.but {f : Bindings → Settings → Except CalcError α} {action : Action α}
    (reads : Reads f action) (name : String) : ReadsBut name f action := by
  intro s
  obtain ⟨journal, ran⟩ := reads s
  exact ⟨s.bindings, journal, ran, fun _ _ => rfl⟩

/-- What is read after the name may have been bound anew must not depend on it. -/
theorem ReadsBut.bind {name : String} {f : Bindings → Settings → Except CalcError α}
    {g : α → Bindings → Settings → Except CalcError β} {action : Action α} {next : α → Action β}
    (first : ReadsBut name f action) (rest : ∀ a, ReadsBut name (g a) (next a))
    (blind : ∀ a E E' settings, (∀ other, other ≠ name → E'.find? other = E.find? other) →
      g a E' settings = g a E settings) :
    ReadsBut name (fun E settings => f E settings >>= fun a => g a E settings) (action >>= next) := by
  intro s
  obtain ⟨E, journal, ran, hidden⟩ := first s
  dsimp only
  cases value : f s.bindings s.settings with
  | error e =>
    rw [value] at ran
    exact ⟨E, journal, runIn_bind_of_error ran, hidden⟩
  | ok a =>
    rw [value] at ran
    rw [runIn_bind_of_ok ran]
    obtain ⟨F, later, ended, others⟩ := rest a { s with bindings := E, journal }
    dsimp only at ended
    rw [blind a s.bindings E s.settings hidden] at ended
    exact ⟨F, later, ended, fun other different => (others other different).trans (hidden other different)⟩

/-- A scoped binding hides what happens to its name. -/
theorem ReadsBut.withBinding {name : String} {f : Bindings → Settings → Except CalcError α}
    {action : Action α} (reads : ReadsBut name f action) (e : Expr) :
    Reads (fun E settings => f (E.insert name e) settings) (Session.withBinding name e action) := by
  intro s
  obtain ⟨E, journal, ran, others⟩ := reads ((s.bind name e).report (.bound name))
  have hidden : ∀ other, other ≠ name → E.find? other = s.bindings.find? other := by
    intro other different
    rw [others other different]
    exact (NameMap.find?_insert s.bindings name other e).trans (if_neg different)
  refine ⟨journal ++ [.released name], ?_⟩
  rw [Session.runIn_withBinding, ran]
  exact congrArg (fun after => (_, Session.report after (.released name)))
    (Session.restore_of_hidden hidden)

end Action

namespace Session

open GraphCalc.Action

theorem reads_checkGrid (name : String) (grid : Grid) :
    Reads (fun E _ => E.checkGrid name grid) (checkGrid name grid) := by
  have step : Reads (fun _ _ => if ¬0 < grid.step then throw (.stepNotPositive grid.step) else pure ())
      (if ¬0 < grid.step then throw (.stepNotPositive grid.step) else pure ()) :=
    .ite (.throw _) (.pure _)
  have taken : Reads
      (fun E _ => do
        if E.contains name then throw (.alreadyBound name)
        if ¬0 < grid.step then throw (.stepNotPositive grid.step))
      (do
        if (← get).bindings.contains name then throw (.alreadyBound name)
        if ¬0 < grid.step then throw (.stepNotPositive grid.step)) :=
    fun s => Reads.ite (.bind (.throw _) fun _ => step) step s
  exact .ite (.bind (.throw _) fun _ => taken) taken

theorem reads_checkBody (name : String) (body : Expr) :
    Reads (fun E settings => Bindings.checkBody (E.insert name (.number settings.placeholder)) body)
      (checkBody name body) := by
  have check : Reads (fun E _ => Bindings.checkBody E body)
      (do
        let missing ← .query (·.unboundNames [] body)
        if missing.names ≠ [] then throw (.undefinedInPlot missing.names)) :=
    .bind (.query _) fun missing => .ite (.throw _) (.pure _)
  exact fun s => (check.but name).withBinding (.number s.settings.placeholder) s

variable [MathLibrary]

theorem readsBut_evaluateAt (name : String) (body : Expr) (x : Float) :
    ReadsBut name (fun E _ => E.valueAt name body x) (evaluateAt name body x) := fun s =>
  ⟨(s.bind name (.number x)).bindings, s.journal, rfl, fun other different =>
    (NameMap.find?_insert s.bindings name other (.number x)).trans (if_neg different)⟩

/-- From any index on, the sampling loop tabulates the values of the formula. -/
theorem readsBut_samplePoints (name : String) (body : Expr) (grid : Grid) (i : Nat) :
    ReadsBut name (fun E _ => grid.tabulate (E.valueAt name body) i) (samplePoints name body grid i) := by
  unfold samplePoints
  fun_induction Grid.tabulate grid (evaluateAt name body) i with
  | case1 i inside ih =>
    simp only [Grid.tabulate_inside _ inside]
    refine (readsBut_evaluateAt name body _).bind (fun y => ?_) fun y E E' _ others => ?_
    · by_cases advance : grid.point i < grid.point (i + 1)
      · simp only [dif_pos advance, if_pos advance]
        exact (ih advance).bind (fun _ => (Reads.pure _).but name) fun _ _ _ _ _ => rfl
      · simp only [dif_neg advance, if_neg advance]
        exact (Reads.throw _).but name
    · rw [Bindings.valueAt_congr others]
  | case2 i outside =>
    simp only [Grid.tabulate_outside _ outside]
    exact (Reads.pure _).but name

theorem reads_gridOf (request : PlotRequest) :
    Reads (fun E _ => E.gridOf request) (gridOf request) :=
  .bind (.ofExcept _) fun _ => .bind (.query _) fun _ =>
    .bind (.ofExcept _) fun _ => .bind (.query _) fun _ =>
      .bind (.ofExcept _) fun _ => .bind (.query _) fun _ => .pure _

/-- The samples of a request are a function of the bindings and the settings. -/
theorem reads_sample (request : PlotRequest) :
    Reads (fun E settings => E.sampled settings request) (sample request) := by
  refine .bind (.ofExcept _) fun name => .bind (.ofExcept _) fun body => ?_
  refine .bind (reads_gridOf request) fun grid => ?_
  refine .bind (reads_checkGrid name grid) fun _ => .bind (reads_checkBody name body) fun _ => ?_
  have points : Reads (fun E _ => grid.tabulate (E.valueAt name body) 0)
      (withBinding name (.number grid.minimum) (samplePoints name body grid 0)) := by
    have inner := (readsBut_samplePoints name body grid 0).withBinding (.number grid.minimum)
    simpa only [Bindings.valueAt_insert] using inner
  exact .bind points fun points => .bind (.log _) fun _ => .pure _

theorem runIn_sample (request : PlotRequest) (s : Session) :
    ∃ journal, (sample request).runIn s =
      (s.bindings.sampled s.settings request, { s with journal }) :=
  reads_sample request s

end Session

end GraphCalc

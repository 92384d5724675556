import GraphCalc.Session.Steps

/-!
# What actions leave alone

An action keeps a view of the session if the view is after it what it was before, whether the action
returned or failed. Keeping a view passes from the parts of an action to the whole, a block under a
scoped binding keeps the bindings if what runs inside keeps all names but its own, and the sampling
loop, which binds its name anew at every position, keeps all others. `plotting_keeps_bindings` puts
these together.
-/

namespace GraphCalc

namespace Action

variable {α β γ : Type} {view : Session → γ}

/-- However the action ends, the view of the session is after it what it was before. -/
def Keeps (view : Session → γ) (action : Action α) : Prop :=
  ∀ s, view (action.runIn s).2 = view s

theorem runIn_bind (action : Action α) (next : α → Action β) (s : Session) :
    (action >>= next).runIn s =
      match action.runIn s with
      | (.ok a, t) => (next a).runIn t
      | (.error e, t) => (.error e, t) := by
  show (ExceptT.bindCont next (action.run.run s).1).run (action.run.run s).2 = _
  unfold runIn
  obtain ⟨_ | _, t⟩ := action.run.run s <;> rfl

theorem Keeps.pure (a : α) : Keeps view (pure a : Action α) := fun _ => rfl

theorem Keeps.throw (e : CalcError) : Keeps view (throw e : Action α) := fun _ => rfl

theorem Keeps.ofExcept (result : Except CalcError α) : Keeps view (.ofExcept result) := fun _ => rfl

theorem Keeps.query (f : Bindings → Except CalcError α) : Keeps view (.query f) := fun _ => rfl

theorem Keeps.modify {f : Session → Session} (same : ∀ s, view (f s) = view s) :
    Keeps view (modify f : Action Unit) := same

/-- A failing first part ends the whole, so the view is kept by what has run. -/
theorem Keeps.bind {action : Action α} {next : α → Action β} (first : Keeps view action)
    (rest : ∀ a, Keeps view (next a)) : Keeps view (action >>= next) := by
  intro s
  have kept := first s
  rw [runIn_bind]
  rcases ran : action.runIn s with ⟨_ | a, t⟩ <;> rw [ran] at kept
  · exact kept
  · exact (rest a t).trans kept

theorem Keeps.read : Keeps view (get : Action Session) := fun _ => rfl

/-- What follows a look at the session has to keep the view of that session only. -/
theorem Keeps.read_bind {next : Session → Action α} (same : ∀ s, view ((next s).runIn s).2 = view s) :
    Keeps view (get >>= next) := by
  intro s
  rw [runIn_bind]
  exact same s

theorem Keeps.ite {condition : Prop} [Decidable condition] {yes no : Action α}
    (first : Keeps view yes) (second : Keeps view no) :
    Keeps view (if condition then yes else no) := by
  split
  · exact first
  · exact second

/-- A check that fails or lets the rest go on. -/
theorem Keeps.check {condition : Prop} [Decidable condition] {e : CalcError} {rest : Action α}
    (kept : Keeps view rest) :
    Keeps view (if condition then (MonadExcept.throw e : Action Unit) >>= fun _ => rest else rest) :=
  .ite (.bind (.throw e) fun _ => kept) kept

end Action

namespace Session

open GraphCalc.Action

variable {α : Type}

/-- Under a scoped binding an action may do to the bound name what it likes. -/
theorem keeps_withBinding {name : String} {e : Expr} {action : Action α}
    (inner : ∀ other, other ≠ name → Keeps (·.bindings.find? other) action) :
    Keeps (·.bindings) (withBinding name e action) := by
  intro s
  refine NameMap.ext fun other => ?_
  rw [find?_withBinding]
  split
  · rename_i same
    rw [same]
  · rename_i different
    refine (inner other different _).trans ?_
    exact (NameMap.find?_insert s.bindings name other e).trans (if_neg different)

theorem keeps_bindName {name other : String} (e : Expr) (different : other ≠ name) :
    Keeps (·.bindings.find? other) (bindName name e) :=
  .modify fun s => (NameMap.find?_insert s.bindings name other e).trans (if_neg different)

theorem keeps_checkGrid (name : String) (grid : Grid) :
    Keeps (·.bindings) (checkGrid name grid) := by
  refine .check (.bind .read fun s => .check ?_)
  exact .ite (.throw _) (.pure _)

theorem keeps_checkBody (name : String) (body : Expr) :
    Keeps (·.bindings) (checkBody name body) := by
  refine .bind .read fun s => keeps_withBinding fun other _ => .bind (.query _) fun missing => ?_
  exact .ite (.throw _) (.pure _)

variable [MathLibrary]

/-- From any index on, sampling keeps all names but the sampled one. -/
theorem keeps_samplePoints {name other : String} (body : Expr) (grid : Grid) (i : Nat)
    (different : other ≠ name) :
    Keeps (·.bindings.find? other) (samplePoints name body grid i) := by
  unfold samplePoints
  fun_induction Grid.tabulate grid (evaluateAt name body) i with
  | case1 i _ ih =>
    refine .bind (.bind (keeps_bindName _ different) fun _ => .query _) fun y => ?_
    split
    · rename_i advance
      exact .bind (ih advance) fun _ => .pure _
    · exact .throw _
  | case2 => exact .pure _

theorem keeps_gridOf (request : PlotRequest) : Keeps (·.bindings) (gridOf request) :=
  .bind (.ofExcept _) fun _ => .bind (.query _) fun _ =>
    .bind (.ofExcept _) fun _ => .bind (.query _) fun _ =>
      .bind (.ofExcept _) fun _ => .bind (.query _) fun _ => .pure _

theorem keeps_sample (request : PlotRequest) : Keeps (·.bindings) (sample request) := by
  refine .bind (.ofExcept _) fun name => .bind (.ofExcept _) fun body => ?_
  refine .bind (keeps_gridOf request) fun grid => ?_
  refine .bind (keeps_checkGrid name grid) fun _ => .bind (keeps_checkBody name body) fun _ => ?_
  refine .bind (keeps_withBinding fun other different => ?_) fun points => ?_
  · exact keeps_samplePoints body grid 0 different
  · exact .bind (.modify fun _ => rfl) fun _ => .pure _

theorem keeps_plot (request : PlotRequest) : Keeps (·.bindings) (plot request) := by
  refine .bind (keeps_sample request) fun series => .bind (.ofExcept _) fun parameter => ?_
  exact .read_bind fun s => rfl

/-- Reducing a formula reports events and does nothing else. -/
theorem keeps_reduce {γ : Type} {view : Session → γ}
    (silent : ∀ s journal, view { s with journal } = view s) (e : Expr) : Keeps view (reduce e) :=
  .bind (.modify fun s => silent s _) fun _ => .query _

theorem keeps_perform (request : Request) : Keeps (·.bindings) (perform request) := by
  cases request with
  | toDouble e => exact .bind (.query _) fun _ => .bind (.modify fun _ => rfl) fun _ => .pure _
  | simplify e => exact keeps_reduce (fun _ _ => rfl) e
  | plot request => exact keeps_plot request

theorem keeps_runCommand (command : Command) (node : Expr) :
    Keeps (·.bindings) (runCommand command node) :=
  .bind (.ofExcept _) keeps_perform

theorem keeps_interpret (node : Expr) : Keeps (·.bindings) (interpret node) := by
  unfold interpret
  split
  · exact .bind (.modify fun _ => rfl) fun _ => keeps_runCommand _ node
  · exact keeps_reduce (fun _ _ => rfl) node

/-- Whatever comes of it, plotting leaves the bindings exactly as they were: the same names stand for the
same formulas after sampling, plotting, a plot command or any other line of input as before, whether the
range, a check, a sample at any index or the step made it fail or nothing did. Loose values in place of
formulas change nothing about this. -/
theorem plotting_keeps_bindings (s : Session) :
    (∀ request, ((sample request).runIn s).2.bindings = s.bindings) ∧
      (∀ request, ((plot request).runIn s).2.bindings = s.bindings) ∧
      (∀ node, ((runCommand .plot node).runIn s).2.bindings = s.bindings) ∧
      (∀ node, ((interpret node).runIn s).2.bindings = s.bindings) ∧
      ∀ value, ((Step.interpret value).run.runIn s).2.bindings = s.bindings := by
  refine ⟨fun request => keeps_sample request s, fun request => keeps_plot request s,
    fun node => keeps_runCommand .plot node s, fun node => keeps_interpret node s, fun value => ?_⟩
  have step : Keeps (·.bindings) (Step.interpret value).run :=
    .bind (.ofExcept _) fun node => .bind (keeps_interpret node) fun _ => .pure _
  exact step s

end Session

end GraphCalc

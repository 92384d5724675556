import GraphCalc.Proofs.Acyclicity
import GraphCalc.Proofs.NormalForms
import GraphCalc.Proofs.ScopedBindings

/-!
# Runs of assignments

An assignment binds a name to what a line of input comes to. It changes what every definition that uses the
name leads to, and still it makes no circle: no name in a result is bound, so the new definition leads nowhere,
unless to its own name. `assignments_stay_acyclic` is about runs of any length in which no result goes to a name
that stands in it, with anything in between that leaves the bindings alone.
-/

namespace GraphCalc

theorem Operand.uncircled_formulaOr {refuse : LooseType → CalcError} (value : Operand)
    (other : ∀ type names, refuse type ≠ .cyclicDefinition names) : Uncircled (value.formulaOr refuse) := by
  cases value with
  | formula e => exact .ok e
  | loose v => exact fun names same => other v.type names (Except.error.inj same)

theorem Recorder.uncircled_last (r : Recorder) : Uncircled r.last := by
  unfold last
  cases r.calls.getLast? <;> exact fun _ => nofun

namespace Bindings

open Results

variable {E : Bindings} {settings : Settings} {name : String} {e node r : Expr}
variable [MathLibrary]

theorem settled_of_simplify (simplified : E.simplify [] e = .ok r) : Settled E r :=
  (simplify_eq_ok_iff_reduces.mp simplified).normal.settled

theorem settled_of_answer {request : Request} (answered : E.answer settings request = .ok r) :
    Settled E r := by
  cases request with
  | toDouble e =>
    obtain ⟨x, _, same⟩ := bind_eq_ok_iff.mp answered
    cases same
    exact settled_number x
  | simplify e => exact settled_of_simplify answered
  | plot request =>
    obtain ⟨_, _, same⟩ := bind_eq_ok_iff.mp answered
    cases same
    exact settled_number settings.placeholder

/-- No name in what a line of input comes to is bound. -/
theorem settled_of_answerLine (answered : E.answerLine settings node = .ok r) : Settled E r := by
  unfold answerLine at answered
  split at answered
  · obtain ⟨request, _, answered⟩ := bind_eq_ok_iff.mp answered
    exact settled_of_answer answered
  · exact settled_of_simplify answered

end Bindings

namespace Action

variable {α β : Type} {s : Session}

/-- In a session, an action reports no circle. -/
def Avoids (s : Session) (action : Action α) : Prop := Uncircled (action.runIn s).1

theorem Avoids.pure (a : α) : Avoids s (pure a) := .ok a

theorem Avoids.read : Avoids s get := .ok s

theorem Avoids.ofExcept {result : Except CalcError α} (uncircled : Uncircled result) :
    Avoids s (.ofExcept result) := uncircled

theorem Avoids.query {f : Bindings → Except CalcError α} (uncircled : Uncircled (f s.bindings)) :
    Avoids s (.query f) := uncircled

theorem Avoids.bind {action : Action α} {next : α → Action β} (first : Avoids s action)
    (rest : ∀ a t, action.runIn s = (.ok a, t) → Avoids t (next a)) : Avoids s (action >>= next) := by
  unfold Avoids
  rw [runIn_bind]
  rcases ran : action.runIn s with ⟨error | a, t⟩
  · rw [Avoids, ran] at first
    intro names failed
    cases failed
    exact first names rfl
  · exact rest a t ran

theorem Avoids.ofExcept_bind {result : Except CalcError α} {next : α → Action β}
    (uncircled : Uncircled result) (rest : ∀ a, Avoids s (next a)) :
    Avoids s (.ofExcept result >>= next) := by
  refine .bind (.ofExcept uncircled) fun a t ran => ?_
  obtain rfl : s = t := congrArg Prod.snd ran
  exact rest a

/-- What is made of a result afterwards makes no difference. -/
theorem Avoids.map {action : Action α} (avoids : Avoids s action) (f : α → β) :
    Avoids s (do return f (← action)) :=
  avoids.bind fun a _ _ => .pure (f a)

end Action

namespace Session

open GraphCalc.Action GraphCalc.Bindings

variable {s t : Session} {name : String} {node r : Expr}
variable [MathLibrary]

theorem avoids_reduce (acyclic : Acyclic s.bindings) (e : Expr) : Avoids s (reduce e) :=
  acyclic.simplify e

theorem avoids_sample (acyclic : Acyclic s.bindings) (request : PlotRequest) :
    Avoids s (sample request) := by
  obtain ⟨journal, ran⟩ := runIn_sample request s
  rw [Avoids, ran]
  exact acyclic.sampled s.settings request

theorem avoids_plot (acyclic : Acyclic s.bindings) (request : PlotRequest) : Avoids s (plot request) := by
  rw [Avoids, result_plot]
  exact acyclic.answer s.settings (.plot request)

theorem avoids_runCommand (acyclic : Acyclic s.bindings) (command : Command) (node : Expr) :
    Avoids s (runCommand command node) := by
  rw [Avoids, result_runCommand]
  exact acyclic.answerCommand s.settings command node

theorem avoids_interpret (acyclic : Acyclic s.bindings) (node : Expr) : Avoids s (interpret node) := by
  rw [Avoids, result_interpret]
  exact acyclic.answerLine s.settings node

theorem avoids_assign (acyclic : Acyclic s.bindings) (name : String) (node : Expr) :
    Avoids s (assign name node) :=
  (avoids_interpret acyclic node).bind fun _ _ _ => .ok _

end Session

namespace Step

open Session GraphCalc.Action GraphCalc.Bindings

variable {s : Session} {step : Step}

section

variable [MathLibrary]

/-- A step of a run of assignments: a result goes to no name that stands in it, and nothing else changes the
bindings. A link is followed from an empty chain, as circles on the chain of a caller are none of the
bindings. -/
def Fits (s : Session) : Step → Prop
  | assign name node => ∀ r, ((Session.interpret node).runIn s).1 = .ok r → name ∉ r.freeNames
  | resolve _ chain => chain = []
  | bind _ _ | unbind _ | block _ _ _ _ => False
  | _ => True

/-- The steps of a run of assignments, each fitting the session that it is taken in. -/
def AllFit : Session → List Step → Prop
  | _, [] => True
  | s, step :: rest => step.Fits s ∧ AllFit (step.run.runIn s).2 rest

/-- An assignment binds its name to what the line comes to, and a failing one binds nothing. -/
theorem bindings_run_assign (name : String) (node : Expr) (s : Session) :
    ((assign name node).run.runIn s).2.bindings =
      match s.bindings.answerLine s.settings node with
      | .ok r => s.bindings.insert name r
      | .error _ => s.bindings := by
  have kept := keeps_interpret node s
  rw [← result_interpret, run, runIn_bind, Session.assign, runIn_bind]
  rcases ran : (Session.interpret node).runIn s with ⟨error | r, after⟩ <;> rw [ran] at kept
  · exact kept
  · exact congrArg (NameMap.insert · name r) kept

theorem fits_of_answer {name : String} {node r : Expr}
    (answered : s.bindings.answerLine s.settings node = .ok r) (apart : name ∉ r.freeNames) :
    (assign name node).Fits s := by
  intro other result
  rw [result_interpret, answered] at result
  cases result
  exact apart

theorem avoids_run (acyclic : Acyclic s.bindings) (fits : step.Fits s) : Avoids s step.run := by
  cases step with
  | bind | unbind | block => exact fits.elim
  | lookup | contains | size | describe | calls => exact .map .read _
  | resolve name chain =>
    obtain rfl : chain = [] := fits
    refine .map (.query fun names failed => ?_) _
    exact acyclic.not_reports (reports_of_resolve failed)
  | evaluate value =>
    exact .ofExcept_bind (value.uncircled_formulaOr nofun) fun e => .map (.query (acyclic.toDouble e)) _
  | simplify value =>
    exact .ofExcept_bind (value.uncircled_formulaOr nofun) fun e => .map (avoids_reduce acyclic e) _
  | isCalculable value =>
    cases value with
    | formula e => exact .map (.query (acyclic.isCalculable e)) _
    | loose v => exact .pure _
  | unboundNames e => exact .map (.query (acyclic.unboundNames e)) _
  | sample request => exact .map (avoids_sample acyclic request) _
  | plot request => exact .map (avoids_plot acyclic request) _
  | runCommand command node => exact .map (avoids_runCommand acyclic command node) _
  | interpret value =>
    exact .ofExcept_bind (value.uncircled_formulaOr nofun) fun e => .map (avoids_interpret acyclic e) _
  | assign name node => exact .map (avoids_assign acyclic name node) _
  | last => exact .bind .read fun t _ _ => .map (.ofExcept t.recorder.uncircled_last) _

theorem acyclic_run (acyclic : Acyclic s.bindings) (fits : step.Fits s) :
    Acyclic (step.run.runIn s).2.bindings := by
  have kept (spares : ∀ name, step.Spares name) : (step.run.runIn s).2.bindings = s.bindings :=
    NameMap.ext fun name => find?_run_of_spares step (spares name) s
  cases step with
  | bind | unbind | block => exact fits.elim
  | assign name node =>
    rw [bindings_run_assign]
    cases answered : s.bindings.answerLine s.settings node with
    | error error => exact acyclic
    | ok r =>
      have result : ((Session.interpret node).runIn s).1 = .ok r := (result_interpret node s).trans answered
      exact acyclic.insert (settled_of_answerLine answered) (fits r result)
  | _ => exact kept (fun _ => trivial) ▸ acyclic

/-- A run of assignments makes no circle: the bindings are acyclic after each of its steps if they were at its
start, and no step reports a circle, be it an evaluation, a simplification, a plot or another line of input.
The names that results go to may be bound already and used by other definitions. -/
theorem assignments_stay_acyclic (s : Session) (steps : List Step) (acyclic : Acyclic s.bindings)
    (fit : AllFit s steps) :
    let run := runAll false steps s
    Acyclic run.2.bindings ∧ ∀ seen ∈ run.1.1,
      Acyclic seen.bindings ∧ ∀ names, seen.outcome ≠ .error (.cyclicDefinition names) := by
  induction steps generalizing s with
  | nil => exact ⟨acyclic, by simp [runAll]⟩
  | cons step rest ih =>
    obtain ⟨fits, fit⟩ := fit
    have onwards := acyclic_run acyclic fits
    have avoids := avoids_run acyclic fits
    obtain ⟨last, others⟩ := ih _ onwards fit
    rcases ran : step.run.runIn s with ⟨outcome, after⟩
    rw [ran] at onwards last others
    rw [Avoids, ran] at avoids
    simp only [runAll, ran]
    refine ⟨last, fun seen member => ?_⟩
    rcases List.mem_cons.mp member with rfl | later
    · exact ⟨onwards, avoids⟩
    · exact others seen later

end

/-- The name `x` stands for nothing yet and is used by `f`. It is bound to `y`, which is no name of `f`, and
then `f` itself is bound anew to what `x` comes to. -/
theorem assignments_stay_acyclic_where_names_are_used :
    let line : Expr := .operation BinaryOp.add.name [.var "x", .number 1]
    let E : Bindings := NameMap.insert ∅ "f" line
    let s : Session := ⟨E, .single, {}, []⟩
    let steps : List Step :=
      [assign "x" (.var "y"), assign "f" (.var "x"), evaluate (.formula (.var "f"))]
    let run := runAll false steps s
    Acyclic E ∧ AllFit s steps ∧ Acyclic run.2.bindings ∧ ∀ seen ∈ run.1.1,
      Acyclic seen.bindings ∧ ∀ names, seen.outcome ≠ .error (.cyclicDefinition names) := by
  intro line E s steps run
  have acyclic : Acyclic E :=
    acyclic_empty.insert (fun _ _ => rfl) (by simp [line, Expr.mem_freeNames_operation])
  have first : E.answerLine s.settings (.var "y") = .ok (.var "y") :=
    simplify_eq_ok_iff_reduces.mpr (.unbound (by decide))
  let F : Bindings := E.insert "x" (.var "y")
  have bound : ((assign "x" (.var "y")).run.runIn s).2.bindings = F := by
    rw [bindings_run_assign, show s.bindings = E from rfl, first]
  have second (settings : Settings) : F.answerLine settings (.var "x") = .ok (.var "y") :=
    simplify_eq_ok_iff_reduces.mpr (.link (by decide) (.unbound (by decide)))
  have fit : AllFit s steps := by
    refine ⟨fits_of_answer first (by simp), fits_of_answer (r := .var "y") ?_ (by simp), trivial, trivial⟩
    rw [bound]
    exact second _
  exact ⟨acyclic, fit, assignments_stay_acyclic s steps acyclic fit⟩

end Step

end GraphCalc

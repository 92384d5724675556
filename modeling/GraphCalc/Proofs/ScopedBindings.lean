import GraphCalc.Proofs.Frames

/-!
# Blocks under a scoped binding

A block binds a name while something else runs, which may bind the name anew, unbind it, enter further blocks
and fail in any of them. `Closes` says what a block leaves behind, however it is left: its own name as it was
before, and all else as what ran inside left it. `closes_whileBound` is about any action inside, and a block is an
action itself, so an error may cross as many blocks as there are.

Names that are never written outside blocks of their own survive any steps: `find?_run_of_spares`.
-/

namespace GraphCalc

open GraphCalc.Action

namespace Session

variable {α : Type} {s t u : Session} {name : String}

/-- A block as it is written: a value is converted, and then an action runs while a name stands for it. -/
def whileBound (name : String) (value : Operand) (body : Action α) : Action α := do
  withBinding name (← .ofExcept value.toExpr) body

/-- The session inside a block. -/
def enter (s : Session) (name : String) (bound : Expr) : Session :=
  (s.bind name bound).report (.bound name)

/-- A block entered from one session and left in another has put its own name back and nothing else. -/
structure Closes (name : String) (before inside after : Session) : Prop where
  own : after.bindings.find? name = before.bindings.find? name
  others : ∀ other, other ≠ name → after.bindings.find? other = inside.bindings.find? other
  recorder : after.recorder = inside.recorder
  settings : after.settings = inside.settings

theorem closes_withBinding (name : String) (e : Expr) (body : Action α) (s : Session) :
    Closes name s (body.runIn (s.enter name e)).2 ((withBinding name e body).runIn s).2 := by
  have looked := fun other => find?_withBinding name other e body s
  refine ⟨?_, fun other different => ?_, ?_, ?_⟩
  · exact (looked name).trans (if_pos rfl)
  · exact (looked other).trans (if_neg different)
  · show (restore _ name (s.bindings.find? name)).recorder = _
    cases s.bindings.find? name <;> rfl
  · show (restore _ name (s.bindings.find? name)).settings = _
    cases s.bindings.find? name <;> rfl

theorem closes_whileBound {value : Operand} {bound : Expr} (converted : value.toExpr = .ok bound)
    (body : Action α) (s : Session) :
    ((whileBound name value body).runIn s).1 = (body.runIn (s.enter name bound)).1 ∧
      Closes name s (body.runIn (s.enter name bound)).2 ((whileBound name value body).runIn s).2 := by
  have entered : (whileBound name value body).runIn s = (withBinding name bound body).runIn s := by
    rw [whileBound, converted]
    rfl
  rw [entered]
  exact ⟨rfl, closes_withBinding name bound body s⟩

theorem whileBound_refused {value : Operand} {error : CalcError} (refused : value.toExpr = .error error)
    (body : Action α) (s : Session) : (whileBound name value body).runIn s = (.error error, s) := by
  rw [whileBound, refused]
  rfl

end Session

namespace Step

open Session

mutual

/-- A step writes a name nowhere but inside blocks of that name. -/
def Spares (name : String) : Step → Prop
  | bind other _ | unbind other | assign other _ => other ≠ name
  | block other _ steps _ => other = name ∨ SparesAll name steps
  | _ => True

def SparesAll (name : String) : List Step → Prop
  | [] => True
  | step :: rest => step.Spares name ∧ SparesAll name rest

end

variable {name : String} {step : Step} {steps : List Step} {propagate : Bool}
variable [MathLibrary]

theorem keepsName_run_of_leaf (spares : step.Spares name)
    (leaf : ∀ name value steps propagate, step ≠ .block name value steps propagate) :
    Keeps (·.bindings.find? name) step.run := by
  have whole {α : Type} {action : Action α} (keeps : Keeps (·.bindings) action) :
      Keeps (·.bindings.find? name) action :=
    fun s => congrArg (·.find? name) (keeps s)
  cases step with
  | bind other value =>
    exact .bind (.ofExcept _) fun e => .bind (keeps_bindName e (Ne.symm spares)) fun _ => .pure _
  | unbind other =>
    exact fun s => (NameMap.find?_erase s.bindings other name).trans (if_neg (Ne.symm spares))
  | lookup | contains | size | describe | calls => exact .bind .read fun _ => .pure _
  | resolve other chain => exact .bind (.query _) fun _ => .pure _
  | evaluate value => exact .bind (.ofExcept _) fun _ => .bind (.query _) fun _ => .pure _
  | simplify value =>
    exact .bind (.ofExcept _) fun e => .bind (whole (keeps_reduce (fun _ _ => rfl) e)) fun _ => .pure _
  | isCalculable value =>
    cases value with
    | formula e => exact .bind (.query _) fun _ => .pure _
    | loose v => exact .pure _
  | unboundNames e => exact .bind (.query _) fun _ => .pure _
  | sample request => exact .bind (whole (keeps_sample request)) fun _ => .pure _
  | plot request => exact .bind (whole (keeps_plot request)) fun _ => .pure _
  | runCommand command node => exact .bind (whole (keeps_runCommand command node)) fun _ => .pure _
  | interpret value =>
    exact .bind (.ofExcept _) fun node => .bind (whole (keeps_interpret node)) fun _ => .pure _
  | assign other node =>
    refine .bind (.bind (whole (keeps_interpret node)) fun e => ?_) fun _ => .pure _
    exact .bind (keeps_bindName e (Ne.symm spares)) fun _ => .pure _
  | last => exact .bind .read fun _ => .bind (.ofExcept _) fun _ => .pure _
  | block other value steps propagate => exact absurd rfl (leaf other value steps propagate)

/-- What is seen of a block whose value is converted. -/
theorem run_block (name : String) (steps : List Step) (propagate : Bool) {value : Operand} {bound : Expr}
    (converted : value.toExpr = .ok bound) (s : Session) :
    let inside := runAll propagate steps (s.enter name bound)
    let after := (block name value steps propagate).run.runIn s
    after.1 = .ok (.block inside.1.1 inside.1.2) ∧ Closes name s inside.2 after.2 := by
  let body : Action Outcome := ExceptT.mk fun s =>
    let ran := runAll propagate steps s
    (.ok (.block ran.1.1 ran.1.2), ran.2)
  have entered : (block name value steps propagate).run = withBinding name bound body := by
    rw [run, converted]
  rw [entered]
  exact ⟨rfl, closes_withBinding name bound body s⟩

theorem run_block_refused {value : Operand} {error : CalcError} (refused : value.toExpr = .error error)
    (s : Session) :
    (block name value steps propagate).run.runIn s = (.ok (.block [] (some error)), s) := by
  rw [run, refused]
  rfl

/-- A block keeps every name that it protects itself or that the steps inside keep. -/
theorem find?_run_block (other : String) (value : Operand)
    (inner : other = name ∨ ∀ s, (runAll propagate steps s).2.bindings.find? name =
      s.bindings.find? name) (s : Session) :
    ((block other value steps propagate).run.runIn s).2.bindings.find? name =
      s.bindings.find? name := by
  cases converted : value.toExpr with
  | error error => rw [run_block_refused converted]
  | ok bound =>
    have closes := (run_block other steps propagate converted s).2
    by_cases same : name = other
    · subst same
      exact closes.own
    · have kept := inner.resolve_left (Ne.symm same) (s.enter other bound)
      have entered : (s.enter other bound).bindings.find? name = s.bindings.find? name :=
        (NameMap.find?_insert s.bindings other name bound).trans (if_neg same)
      exact (closes.others name same).trans (kept.trans entered)

mutual

/-- A step keeps a name that it spares, whatever comes of it. -/
theorem find?_run_of_spares (step : Step) (spares : step.Spares name) (s : Session) :
    (step.run.runIn s).2.bindings.find? name = s.bindings.find? name := by
  cases step with
  | block other value steps propagate =>
    have inner : other = name ∨ ∀ s, (runAll propagate steps s).2.bindings.find? name =
        s.bindings.find? name := by
      rw [Spares] at spares
      exact spares.imp_right fun spares => find?_runAll_of_spares propagate steps spares
    exact find?_run_block other value inner s
  | _ => exact keepsName_run_of_leaf spares (by simp) s

/-- And so does a run of steps. -/
theorem find?_runAll_of_spares (propagate : Bool) (steps : List Step) (spares : SparesAll name steps)
    (s : Session) : (runAll propagate steps s).2.bindings.find? name = s.bindings.find? name := by
  cases steps with
  | nil => rfl
  | cons step rest =>
    rw [SparesAll] at spares
    have first := find?_run_of_spares step spares.1 s
    have later := find?_runAll_of_spares propagate rest spares.2 (step.run.runIn s).2
    rcases ran : step.run.runIn s with ⟨outcome, after⟩
    rw [ran] at first later
    have onwards := later.trans first
    cases propagate with
    | false => simpa only [runAll, ran] using onwards
    | true =>
      cases outcome with
      | ok outcome => simpa only [runAll, ran] using onwards
      | error e => simpa only [runAll, ran] using first

end

end Step

namespace Session

open GraphCalc.Step

/-- A block restores its own name and nothing else, whatever runs inside: any action, which may return or
fail, and any steps, with further blocks among them. On either way out the name stands again for what it stood
for before, or for nothing, and every other name for what it was left at inside. So a name that the steps
write in blocks of its own only is as before, too. Where the value is none that a name can stand for, that is
the error; nothing runs and nothing has changed. -/
theorem block_restores_own_name_only [MathLibrary] (s : Session) (name : String) (value : Operand) :
    (∀ bound, value.toExpr = .ok bound →
      (∀ (α : Type) (body : Action α),
        let inside := body.runIn (s.enter name bound)
        let after := (whileBound name value body).runIn s
        after.1 = inside.1 ∧ Closes name s inside.2 after.2) ∧
      ∀ (steps : List Step) (propagate : Bool),
        let inside := runAll propagate steps (s.enter name bound)
        let after := (block name value steps propagate).run.runIn s
        after.1 = .ok (.block inside.1.1 inside.1.2) ∧ Closes name s inside.2 after.2 ∧
          ∀ other, SparesAll other steps → after.2.bindings.find? other = s.bindings.find? other) ∧
    ∀ error, value.toExpr = .error error →
      (∀ (α : Type) (body : Action α), (whileBound name value body).runIn s = (.error error, s)) ∧
      ∀ (steps : List Step) (propagate : Bool),
        (block name value steps propagate).run.runIn s = (.ok (.block [] (some error)), s) := by
  refine ⟨fun bound converted => ⟨?_, fun steps propagate => ?_⟩, fun error refused => ⟨?_, ?_⟩⟩
  · exact fun α body => closes_whileBound converted body s
  · obtain ⟨outcome, closes⟩ := run_block name steps propagate converted s
    refine ⟨outcome, closes, fun other spares => ?_⟩
    have kept := find?_run_of_spares (block name value steps propagate) (.inr spares) s
    exact kept
  · exact fun α body => whileBound_refused refused body s
  · exact fun steps propagate => run_block_refused refused s

/-- Inside a block of `x` an error crosses two more blocks, the inner one again of `x`, where `x` has been
unbound and `z` bound. Only the binding of `z` is left. -/
theorem block_restores_own_name_only_behind_error :
    let s : Session := ⟨NameMap.ofList [("x", .number 7)], .single, {}, []⟩
    let innermost : Action Unit := do
      let _ ← unbindName "x"
      bindName "z" (.var "x")
      throw (.undefinedVariable "w")
    let body := whileBound "y" (.loose (.float 2)) (whileBound "x" (.formula (.var "y")) innermost)
    let after := (whileBound "x" (.loose (.float 1)) body).runIn s
    Operand.toExpr (.loose (.float 1)) = .ok (.number 1) ∧
      after.1 = .error (.undefinedVariable "w") ∧
      after.2.bindings.find? "x" = some (.number 7) ∧ after.2.bindings.find? "y" = none ∧
      after.2.bindings.find? "z" = some (.var "x") ∧
      Operand.toExpr (.loose .nothing) = .error (.notConvertible .nothing) ∧
      (whileBound "x" (.loose .nothing) body).runIn s = (.error (.notConvertible .nothing), s) := by
  intro s innermost body after
  obtain ⟨outcome, closes⟩ :=
    ((block_restores_own_name_only s "x" (.loose (.float 1))).1 (.number 1) rfl).1 Unit body
  have refused := (block_restores_own_name_only s "x" (.loose .nothing)).2 _ rfl
  refine ⟨rfl, outcome.trans rfl, closes.own.trans (by decide), ?_, ?_, rfl, refused.1 Unit body⟩
  · exact (closes.others "y" (by decide)).trans (by decide)
  · exact (closes.others "z" (by decide)).trans (by decide)

end Session

end GraphCalc

import GraphCalc.Proofs.InputLines
import GraphCalc.Proofs.MissingNames
import GraphCalc.Proofs.Obstructions
import GraphCalc.Proofs.Operations
import GraphCalc.Proofs.SampleIndices

/-!
# How a line of input can fail

Which errors a line of input may end in, by the command that it is: `Expected`. Simplification fails for the
operations of a formula or for a circle, evaluation for an undefined name as well, and a plot for what its own
checks refuse besides. All other errors are for callers who hand over something else than a formula, or a
formula that is not the command it should be, and no line of input comes to them.

Evaluation, simplification and the commands take arguments out of lists that may be too short, and the sampling
loop converts integers that may be too large. `NeverMet` says of a fault that stands where something is missing
that it makes no difference, and every fault is of this kind.
-/

namespace GraphCalc

open Results Session

variable {command : Command} {request : Request} {node : Expr} {error : CalcError}

/-- The errors that simplifying a formula may end in. -/
inductive FormulaFault : CalcError → Prop
  | unknownOperation (name : String) (context : Option String) :
      FormulaFault (.unknownOperation name context)
  | wrongArity (operation : String) (expected actual : Int) :
      FormulaFault (.wrongArity operation expected actual)
  | cyclicDefinition (names : List String) : FormulaFault (.cyclicDefinition names)

/-- The errors that evaluating a formula may end in. -/
inductive ValueFault : CalcError → Prop
  | formula {error : CalcError} (fault : FormulaFault error) : ValueFault error
  | undefinedVariable (name : String) : ValueFault (.undefinedVariable name)

/-- The errors that a line of input may end in, by the command that it is, or as a formula that is none. -/
inductive Expected : Option Command → CalcError → Prop
  | bare {error : CalcError} (fault : FormulaFault error) : Expected none error
  | simplify {error : CalcError} (fault : FormulaFault error) : Expected (some .simplify) error
  | toDouble {error : CalcError} (fault : ValueFault error) : Expected (some .toDouble) error
  | plot {error : CalcError} (fault : ValueFault error) : Expected (some .plot) error
  | refusal {error : CalcError} (refusal : PlotRefusal error) : Expected (some .plot) error

theorem Expected.of_formulaFault (fault : FormulaFault error) (command : Option Command) :
    Expected command error := by
  rcases command with _ | _ | _ | _
  · exact .bare fault
  · exact .toDouble (.formula fault)
  · exact .simplify fault
  · exact .plot (.formula fault)

theorem FormulaFault.family_eq (fault : FormulaFault error) :
    error.family = .expression ∨ error.family = .evaluation := by
  cases fault with
  | wrongArity => exact .inl rfl
  | unknownOperation | cyclicDefinition => exact .inr rfl

theorem ValueFault.family_eq (fault : ValueFault error) :
    error.family = .expression ∨ error.family = .evaluation := by
  cases fault with
  | formula fault => exact fault.family_eq
  | undefinedVariable => exact .inr rfl

theorem PlotRefusal.family_eq (refusal : PlotRefusal error) :
    error.family = .expression ∨ error.family = .evaluation := by
  cases refusal with
  | notAVariable => exact .inl rfl
  | _ => exact .inr rfl

/-- All of them are malformed formulas or failures of a calculation. -/
theorem Expected.family_eq {command : Option Command} (expected : Expected command error) :
    error.family = .expression ∨ error.family = .evaluation := by
  cases expected with
  | bare fault | simplify fault => exact fault.family_eq
  | toDouble fault | plot fault => exact fault.family_eq
  | refusal refusal => exact refusal.family_eq

namespace Bindings

variable {E : Bindings} {chain : List String} {e r : Expr} {name : String} {args : List Expr}
  {settings : Settings}

theorem formulaFault_of_unboundNames (failed : E.unboundNames chain e = .error error) :
    FormulaFault error := by
  obtain ⟨names, rfl⟩ := unboundNames_error failed
  exact .cyclicDefinition names

variable [MathLibrary]

theorem Fails.valueFault (fails : Fails E e error) : ValueFault error := by
  induction fails with
  | unbound => exact .undefinedVariable _
  | unknown | command => exact .formula (.unknownOperation ..)
  | arity => exact .formula (.wrongArity ..)
  | link _ _ ih => exact ih
  | left _ _ ih => exact ih
  | right _ _ _ ih => exact ih
  | operand _ _ ih => exact ih

theorem valueFault_of_toDouble (failed : E.toDouble chain e = .error error) : ValueFault error := by
  rcases fails_of_toDouble failed with fails | ⟨names, rfl⟩
  · exact fails.valueFault
  · exact .formula (.cyclicDefinition names)

theorem Obstructed.formulaFault (obstructed : Obstructed E e error) : FormulaFault error := by
  induction obstructed with
  | unknown => exact .unknownOperation ..
  | arity => exact .wrongArity ..
  | link _ _ ih => exact ih
  | argument _ _ _ _ ih => exact ih

theorem formulaFault_of_simplify (failed : E.simplify [] e = .error error) : FormulaFault error := by
  rcases obstructed_of_simplify .nil failed with obstructed | ⟨names, rfl⟩
  · exact obstructed.formulaFault
  · exact .cyclicDefinition names

/-- The faults of a plot of formulas. -/
theorem expected_of_sampled {body parameter minimum maximum step : Expr}
    (failed : E.sampled settings (.ofExprs body parameter minimum maximum step) = .error error) :
    Expected (some .plot) error := by
  cases sampleFault_of_error failed with
  | refusal refusal => exact .refusal refusal
  | @operand operand _ part refused =>
    -- each part is a formula, which is never refused
    have formula : ∃ e, operand = .formula e := by
      simp only [PlotRequest.ofExprs, List.mem_cons, List.not_mem_nil, or_false] at part
      rcases part with rfl | rfl | rfl | rfl <;> exact ⟨_, rfl⟩
    obtain ⟨e, rfl⟩ := formula
    cases refused
  | range failed => exact .plot (valueFault_of_toDouble failed)
  | search failed => exact .plot (.formula (formulaFault_of_unboundNames failed))
  | position failed => exact .plot (valueFault_of_toDouble failed)

end Bindings

namespace Command

/-- What the arguments of a command ask for, and a fault where there are too few of them or, for a plot, not
just five. -/
def rolesOr (fault : CalcError) : Command → List Expr → Except CalcError Request
  | .toDouble, e :: _ => .ok (.toDouble e)
  | .simplify, e :: _ => .ok (.simplify e)
  | .plot, [body, parameter, minimum, maximum, step] =>
    .ok (.plot (.ofExprs body parameter minimum maximum step))
  | _, _ => .error fault

/-- A command checks the number of its arguments before it takes them. -/
theorem requestOf_eq (fault : CalcError) (command : Command) (args : List Expr) :
    command.requestOf (.operation command.name args) = (do
      let _ ← Expr.checkArity command.name args
      command.rolesOr fault args) := by
  have known : Op.named? command.name = some (.command command) := Op.named?_eq_some_iff.mpr rfl
  by_cases arity : args.length = command.arity
  · have checked : Expr.checkArity command.name args = .ok (.command command) :=
      Expr.checkArity_eq_ok_iff.mpr ⟨rfl, arity⟩
    rw [checked]
    cases command with
    | toDouble | simplify =>
      obtain ⟨e, rfl⟩ := List.length_eq_one_iff.mp arity
      rfl
    | plot =>
      -- of all lists only those of five have the right length
      obtain _ | ⟨body, _ | ⟨parameter, _ | ⟨minimum, _ | ⟨maximum, _ | ⟨step, _ | _⟩⟩⟩⟩⟩ := args <;>
        cases arity
      rfl
  · have refused : Expr.checkArity command.name args =
        .error (.wrongArity command.name command.arity args.length) := by
      simp [Expr.checkArity, known, Op.arity, arity]
    rw [refused]
    unfold requestOf
    simp only [if_true]
    split
    · exact absurd rfl arity
    · exact absurd rfl arity
    · exact absurd rfl arity
    · rfl

/-- The requests that a command can make. -/
inductive Asks : Command → Request → Prop
  | toDouble (e : Expr) : Asks .toDouble (.toDouble e)
  | simplify (e : Expr) : Asks .simplify (.simplify e)
  | plot (body parameter minimum maximum step : Expr) :
      Asks .plot (.plot (.ofExprs body parameter minimum maximum step))

theorem asks_of_requestOf (requested : command.requestOf node = .ok request) : Asks command request := by
  unfold requestOf at requested
  split at requested
  · split at requested
    · split at requested <;> cases requested
      · exact .toDouble _
      · exact .simplify _
      · exact .plot ..
    · cases requested
  · cases requested

/-- What is a command by name is refused only for the number of its arguments. -/
theorem formulaFault_of_requestOf (known : commandOf? node = some command)
    (refused : command.requestOf node = .error error) : FormulaFault error := by
  obtain ⟨args, rfl⟩ := commandOf?_eq_some_iff.mp known
  unfold requestOf at refused
  simp only [if_true] at refused
  split at refused <;> cases refused
  exact .wrongArity ..

end Command

namespace Bindings

variable {E : Bindings} {settings : Settings} {r : Expr}
variable [MathLibrary]

theorem expected_of_answer (asks : command.Asks request)
    (failed : E.answer settings request = .error error) : Expected (some command) error := by
  cases asks with
  | toDouble e =>
    rcases bind_eq_error_iff.mp failed with worked | ⟨_, _, none⟩
    · exact .toDouble (valueFault_of_toDouble worked)
    · cases none
  | simplify e => exact .simplify (formulaFault_of_simplify failed)
  | plot body parameter minimum maximum step =>
    rcases bind_eq_error_iff.mp failed with sampled | ⟨_, _, none⟩
    · exact expected_of_sampled sampled
    · cases none

/-- Only what is simplified may be worth something else than a number. -/
theorem isNumber_of_answer (asks : command.Asks request) (other : command ≠ .simplify)
    (answered : E.answer settings request = .ok r) : r.isNumber := by
  cases asks with
  | simplify => exact absurd rfl other
  | toDouble | plot =>
    obtain ⟨_, _, same⟩ := bind_eq_ok_iff.mp answered
    cases same
    rfl

theorem expected_of_answerCommand (known : commandOf? node = some command)
    (failed : E.answerCommand settings command node = .error error) : Expected (some command) error := by
  rcases bind_eq_error_iff.mp failed with refused | ⟨request, requested, failed⟩
  · exact .of_formulaFault (Command.formulaFault_of_requestOf known refused) _
  · exact expected_of_answer (Command.asks_of_requestOf requested) failed

theorem isNumber_of_answerCommand (other : command ≠ .simplify)
    (answered : E.answerCommand settings command node = .ok r) : r.isNumber := by
  obtain ⟨request, requested, answered⟩ := bind_eq_ok_iff.mp answered
  exact isNumber_of_answer (Command.asks_of_requestOf requested) other answered

end Bindings

namespace Session

open GraphCalc.Action GraphCalc.Bindings

variable [MathLibrary]

/-- A fault is never met. It stands for what may be missing where something is taken: an argument of a command,
a value that an operation is applied to, an index that a double has room for. As the numbers of arguments are
checked and indices stay small, commands, evaluation, simplification and the sampling loop do what they do
without it. -/
structure NeverMet (fault : CalcError) : Prop where
  command : ∀ (command : Command) (args : List Expr),
    command.requestOf (.operation command.name args) = (do
      let _ ← Expr.checkArity command.name args
      command.rolesOr fault args)
  evaluation : ∀ (E : Bindings) (chain : List String) (name : String) (args : List Expr),
    E.toDouble chain (.operation name args) = (do
      let op ← Op.lookup name
      if op.isEvaluable then
        let _ ← Expr.checkArity name args
        let values ← args.mapM (E.toDouble chain)
        op.applyOr fault values
      else throw (.unknownOperation name (some CalcError.numericContext)))
  simplification : ∀ (E : Bindings) (chain : List String) (name : String) (args : List Expr),
    E.simplify chain (.operation name args) = (do
      let op ← Expr.checkArity name args
      let simplified ← args.mapM (E.simplify chain)
      match ← E.foldOr chain fault op simplified with
      | some value => return .number value
      | none => return .operation name simplified)
  sampling : ∀ (grid : Grid) (i : Nat), grid.Reaches i → ∀ (name : String) (body : Expr),
    samplePoints name body grid i = (do
      if grid.point i ≤ grid.maximum then
        bindName name (.number (grid.point i))
        let y ← evaluate body
        let following ← .ofExcept (grid.pointOr fault (i + 1))
        if grid.point i < following then
          return (grid.point i, y) :: (← samplePoints name body grid (i + 1))
        else throw (.stepTooSmall grid.step (grid.point i))
      else return [])

/-- A line of input fails in no other way than expected. It returns, and what it returns is a number where the
line asks for a value or a plot, or it ends in one of the errors expected of its kind, which all tell of a
malformed formula or of a calculation. Nothing is ever missing where it is taken. -/
theorem interpret_fails_as_expected (s : Session) (node : Expr) :
    (match ((interpret node).runIn s).1 with
      | .ok r => commandOf? node = some .toDouble ∨ commandOf? node = some .plot → r.isNumber
      | .error error => Expected (commandOf? node) error ∧
          (error.family = .expression ∨ error.family = .evaluation)) ∧
      ∀ fault : CalcError, NeverMet fault := by
  refine ⟨?_, fun fault => ?_⟩
  · rw [result_interpret, answerLine]
    cases known : commandOf? node with
    | none =>
      cases result : s.bindings.simplify [] node with
      | ok r => simp
      | error error =>
        have expected : Expected none error := .bare (formulaFault_of_simplify result)
        exact ⟨expected, expected.family_eq⟩
    | some command =>
      dsimp only
      cases result : s.bindings.answerCommand s.settings command node with
      | ok r =>
        intro valued
        have other : command ≠ .simplify := by
          rintro rfl
          simp at valued
        exact isNumber_of_answerCommand other result
      | error error =>
        have expected : Expected (some command) error := expected_of_answerCommand known result
        exact ⟨expected, expected.family_eq⟩
  · exact {
      command := Command.requestOf_eq fault
      evaluation := fun _ _ _ _ => toDouble_operation fault
      simplification := fun _ _ _ _ => simplify_operation_foldOr fault
      sampling := fun _ _ reaches => samplePoints_eq fault reaches }

end Session

end GraphCalc

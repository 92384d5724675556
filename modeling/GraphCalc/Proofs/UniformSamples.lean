import GraphCalc.Proofs.MissingNames
import GraphCalc.Proofs.SampledSeries
import GraphCalc.Proofs.SharedCircles

/-!
# Samples fail alike

Whether a formula has a value does not depend on the numbers that names stand for, and neither does its fault:
`SameShape` says of bindings that they differ in such numbers only. So a formula fails at the first sample or at
none.

A formula that has passed the check for names without a binding leads to no such name, nor into a circle,
because the search behind the check comes further than evaluation. What is left are faults of its operations:
`value_or_operationFault`.
-/

namespace GraphCalc

open Results

/-- The errors for operations that are unknown, have no value, or have a wrong number of arguments. -/
inductive OperationFault : CalcError → Prop
  | unknownOperation (name : String) (context : Option String) :
      OperationFault (.unknownOperation name context)
  | wrongArity (operation : String) (expected actual : Int) :
      OperationFault (.wrongArity operation expected actual)

namespace Bindings

variable {E E' : Bindings} {e body : Expr} {x : Float} {name : String} {error : CalcError}

/-- Names stand for the same formulas, or both times for a number. -/
def SameShape (E E' : Bindings) : Prop :=
  ∀ name, E.find? name = E'.find? name ∨
    ∃ x y, E.find? name = some (.number x) ∧ E'.find? name = some (.number y)

theorem sameShape_insert (E : Bindings) (name : String) (x y : Float) :
    SameShape (E.insert name (.number x)) (E.insert name (.number y)) := by
  intro other
  rw [NameMap.find?_insert, NameMap.find?_insert]
  by_cases same : other = name
  · exact .inr ⟨x, y, if_pos same, if_pos same⟩
  · rw [if_neg same, if_neg same]
    exact .inl rfl

variable [MathLibrary]

theorem Evaluates.of_sameShape (value : Evaluates E e x) (shape : SameShape E E') :
    ∃ y, Evaluates E' e y := by
  induction value with
  | number x => exact ⟨x, .number x⟩
  | @link name bound x found _ ih =>
    rcases shape name with same | ⟨_, y, _, number⟩
    · obtain ⟨y, value⟩ := ih
      exact ⟨y, .link (same ▸ found) value⟩
    · exact ⟨y, .link number (.number y)⟩
  | binary op _ _ left right =>
    obtain ⟨y, first⟩ := left
    obtain ⟨z, second⟩ := right
    exact ⟨_, .binary op first second⟩
  | unary op _ operand =>
    obtain ⟨y, only⟩ := operand
    exact ⟨_, .unary op only⟩

theorem Fails.of_sameShape (fault : Fails E e error) (shape : SameShape E E') : Fails E' e error := by
  induction fault with
  | @unbound name missing =>
    rcases shape name with same | ⟨_, _, number, _⟩
    · exact .unbound (same ▸ missing)
    · cases missing.symm.trans number
  | @link name bound error found fault ih =>
    rcases shape name with same | ⟨_, _, number, _⟩
    · exact .link (same ▸ found) ih
    · -- a number has no fault
      cases found.symm.trans number
      cases fault
  | unknown unnamed => exact .unknown unnamed
  | command command => exact .command command
  | arity op evaluable wrong => exact .arity op evaluable wrong
  | left op _ ih => exact .left op ih
  | right op value _ ih =>
    obtain ⟨_, value⟩ := value.of_sameShape shape
    exact .right op value ih
  | operand op _ ih => exact .operand op ih

/-- A fault is one of an operation, or that of a name that the formula lacks. -/
theorem Fails.operationFault_or_lacks (fault : Fails E e error) :
    OperationFault error ∨ ∃ name, Lacks E e name := by
  induction fault with
  | unbound missing => exact .inr ⟨_, .here missing⟩
  | link found _ ih => exact ih.imp_right fun ⟨name, lacks⟩ => ⟨name, .link found lacks⟩
  | unknown | command => exact .inl (.unknownOperation ..)
  | arity => exact .inl (.wrongArity ..)
  | left op _ ih | right op _ _ ih | operand op _ ih =>
    exact ih.imp_right fun ⟨name, lacks⟩ => ⟨name, .argument (by simp) lacks⟩

/-- A formula that the search for unbound names finds complete has a value, or an operation of it has a fault.
-/
theorem value_or_operationFault {missing : NameSet} (searched : E.unboundNames [] e = .ok missing)
    (none : missing.names = []) :
    (∃ x, Evaluates E e x) ∨ ∃ error, OperationFault error ∧ Fails E e error := by
  rcases E.toDouble_cases [] e with ⟨x, _, value⟩ | ⟨error, _, fault⟩ | ⟨names, circle⟩
  · exact .inl ⟨x, value⟩
  · rcases fault.operationFault_or_lacks with operation | ⟨name, lacks⟩
    · exact .inr ⟨error, operation, fault⟩
    · have listed : name ∈ missing.names := NameSet.mem_names.mpr ((mem_unboundNames_iff searched).mpr lacks)
      simp [none] at listed
  · -- the search would have reported the circle
    have covers : Covers (E.unboundNames [] e) (E.toDouble [] e) :=
      (unboundNames_covers_simplify .nil).trans (simplify_covers_toDouble .nil)
    cases searched.symm.trans (covers.circle names circle)

/-- A formula that is complete while a name stands for some number has a value wherever the name stands for a
number, or the same fault everywhere. -/
theorem valueAt_uniform (complete : checkBody (E.insert name (.number x)) body = .ok ()) :
    (∀ y, ∃ z, E.valueAt name body y = .ok z) ∨
      ∃ error, OperationFault error ∧ ∀ y, E.valueAt name body y = .error error := by
  obtain ⟨missing, searched, none⟩ := checkBody_eq_ok_iff.mp complete
  rcases value_or_operationFault searched none with ⟨_, value⟩ | ⟨error, operation, fault⟩
  · refine .inl fun y => ?_
    obtain ⟨z, value⟩ := value.of_sameShape (E.sameShape_insert name x y)
    exact ⟨z, value.toDouble_nil⟩
  · exact .inr ⟨error, operation, fun y => (fault.of_sameShape (E.sameShape_insert name x y)).toDouble_nil⟩

end Bindings

namespace Session

open GraphCalc.Action GraphCalc.Bindings

/-- A loop whose formula has a fault at the first point stops there. -/
theorem samplePoints_of_fault [MathLibrary] {name : String} {body : Expr} {grid : Grid} {error : CalcError}
    (inside : grid.point 0 ≤ grid.maximum) (s : Session)
    (fault : s.bindings.valueAt name body (grid.point 0) = .error error) :
    (samplePoints name body grid 0).runIn s = (.error error, s.bind name (.number (grid.point 0))) := by
  have evaluated : (evaluateAt name body (grid.point 0)).runIn s =
      (s.bindings.valueAt name body (grid.point 0), s.bind name (.number (grid.point 0))) := rfl
  rw [fault] at evaluated
  rw [samplePoints, Grid.tabulate_inside _ inside, runIn_bind_of_error evaluated]

/-- Once a request has passed the checks, its formula fails at the first sample or at none. Either it has a
value wherever the sampled name stands for a number, whatever the number, and nothing but a step that is too
small is reported; or one and the same fault of an operation is met everywhere. This fault then ends the loop
at the first sample, before the step is looked at. Names without a binding and circles are never met. -/
theorem sampling_fails_first_or_never [MathLibrary] (s : Session) (request : PlotRequest) (name : String)
    (body : Expr) (grid : Grid) (admits : s.bindings.Admits s.settings request name body grid) :
    let inside := (s.bind name (.number grid.minimum)).report (.bound name)
    ((∀ x, ∃ y, s.bindings.valueAt name body x = .ok y) ∧
      ∀ error, ((sample request).runIn s).1 = .error error →
        ∃ i, error = .stepTooSmall grid.step (grid.point i)) ∨
    ∃ error, OperationFault error ∧ (∀ x, s.bindings.valueAt name body x = .error error) ∧
      (samplePoints name body grid 0).runIn inside = (.error error, inside) ∧
      ((sample request).runIn s).1 = .error error := by
  intro inside
  rw [result_sample, admits.sampled_eq]
  rcases valueAt_uniform admits.complete with values | ⟨error, operation, fault⟩
  · refine .inl ⟨values, fun error failed => ?_⟩
    rcases bind_eq_error_iff.mp failed with tabulated | ⟨_, _, none⟩
    · rcases Grid.fault_of_tabulate tabulated with ⟨i, fault⟩ | stall
      · obtain ⟨y, value⟩ := values (grid.point i)
        cases value.symm.trans fault
      · exact stall
    · cases none
  · have first : grid.point 0 ≤ grid.maximum := admits.valid.ordered
    refine .inr ⟨error, operation, fault, ?_, ?_⟩
    · have again : inside.bind name (.number grid.minimum) = inside :=
        congrArg (fun E => { inside with bindings := E }) (NameMap.insert_insert _ _ _ _)
      have stopped := samplePoints_of_fault first inside
        ((congrFun (valueAt_insert s.bindings name _ body) _).trans (fault _))
      exact stopped.trans (congrArg _ again)
    · rw [Grid.tabulate_inside _ first, fault]
      rfl

/-- The name `f` stands for a sine without an argument. The step leads nowhere either, but that is not
reported. -/
theorem sampling_fails_first_or_never_before_stall :
    let E : Bindings := NameMap.ofList [("f", .operation UnaryOp.sin.name [])]
    let s : Session := ⟨E, .single, {}, []⟩
    let body : Expr := .operation BinaryOp.add.name [.var "x", .var "f"]
    let grid : Grid := ⟨9007199254740992, 9007199254740992, 1⟩
    let request : PlotRequest := .over grid "x" body
    s.bindings.Admits s.settings request "x" body grid ∧ (grid.point 1 == grid.point 0) = true ∧
      ((sample request).runIn s).1 = .error (.wrongArity UnaryOp.sin.name 1 0) := by
  intro E s body grid request
  have missing : E.find? "x" = none := by decide
  have defined (x : Float) : (E.insert "x" (.number x)).find? "f" = some (.operation UnaryOp.sin.name []) := by
    rw [NameMap.find?_insert, if_neg (by decide)]
    decide
  have complete : Bindings.checkBody (E.insert "x" (.number s.settings.placeholder)) body = .ok () := by
    refine checkBody_eq_ok_iff.mpr ⟨∅ ∪ ∅ ∪ ∅, ?_, rfl⟩
    simp [body, unboundNames_operation, unboundNames_var, defined, NameMap.find?_insert]
  have admits : s.bindings.Admits s.settings request "x" body grid :=
    admits_over ⟨by decide, by decide, by decide, by decide⟩ missing complete
  have fault (x : Float) : s.bindings.valueAt "x" body x = .error (.wrongArity UnaryOp.sin.name 1 0) := by
    have first : Evaluates (E.insert "x" (.number x)) (.var "x") x :=
      .link (by rw [NameMap.find?_insert, if_pos rfl]) (.number x)
    have second : Fails (E.insert "x" (.number x)) (.var "f") (.wrongArity UnaryOp.sin.name 1 0) :=
      .link (defined x) (.arity (.unary .sin) rfl (by decide))
    exact (Fails.right .add first second).toDouble_nil
  refine ⟨admits, by decide, ?_⟩
  rcases sampling_fails_first_or_never s request "x" body grid admits with
    ⟨values, _⟩ | ⟨error, _, same, _, sampled⟩
  · obtain ⟨y, value⟩ := values 0
    cases value.symm.trans (fault 0)
  · cases (same 0).symm.trans (fault 0)
    exact sampled

end Session

end GraphCalc

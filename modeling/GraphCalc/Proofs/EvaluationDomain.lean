import GraphCalc.Proofs.SharedCircles
import GraphCalc.Proofs.SimplificationDomain

/-!
# What has a value

Evaluation stops at the first fault on its way, while the search for unbound names goes everywhere, under unknown
operations and behind commands as well. The two agree on what matters to a plot: a formula that the search finds
complete has a value as soon as its operations are sound.

`evaluation_domain` says so as an equivalence. The reasons that are left for evaluation to fail are listed by
`EvaluationFault`; all are about names and operations, none about the numbers that are worked with.
-/

namespace GraphCalc.Bindings

open Relation Results

variable {E : Bindings} {e f : Expr} {x : Float} {name : String} {args : List Expr} {error : CalcError}

/-- Every operation that is met has a value as a number and the arguments that it takes. -/
def EvaluableOperations (E : Bindings) (e : Expr) : Prop :=
  ∀ name args, Meets E e (.operation name args) →
    ∃ op : Op, op.isEvaluable ∧ op.name = name ∧ args.length = op.arity

/-- Why a formula that leads into no circle has no value: it leads to a name that stands for nothing, or meets an
operation that is unknown, that is a command, or that has the wrong number of arguments. -/
inductive EvaluationFault (E : Bindings) (e : Expr) : CalcError → Prop
  | undefined {name : String} (leads : LeadsTo E e name) (missing : E.find? name = none) :
      EvaluationFault E e (.undefinedVariable name)
  | unknown {name : String} {args : List Expr} (meets : Meets E e (.operation name args))
      (unnamed : Op.named? name = none) : EvaluationFault E e (.unknownOperation name none)
  | command (command : Command) {args : List Expr} (meets : Meets E e (.operation command.name args)) :
      EvaluationFault E e (.unknownOperation command.name (some CalcError.numericContext))
  | arity (op : Op) {args : List Expr} (evaluable : op.isEvaluable)
      (meets : Meets E e (.operation op.name args)) (wrong : args.length ≠ op.arity) :
      EvaluationFault E e (.wrongArity op.name op.arity args.length)

theorem EvaluationFault.of_mentions (mentions : Mentions E e f) (fault : EvaluationFault E f error) :
    EvaluationFault E e error := by
  cases fault with
  | undefined leads missing =>
    exact .undefined (meets_var_iff.mp (.of_mentions mentions (meets_var_iff.mpr leads))) missing
  | unknown meets unnamed => exact .unknown (.of_mentions mentions meets) unnamed
  | command command meets => exact .command command (.of_mentions mentions meets)
  | arity op evaluable meets wrong => exact .arity op evaluable (.of_mentions mentions meets) wrong

/-- Where operations are sound, a fault is that of a name. -/
theorem EvaluationFault.lacks (fault : EvaluationFault E e error) (sound : EvaluableOperations E e) :
    ∃ name, error = .undefinedVariable name ∧ Lacks E e name := by
  cases fault with
  | undefined leads missing => exact ⟨_, rfl, lacks_iff.mpr ⟨leads, missing⟩⟩
  | unknown meets unnamed =>
    obtain ⟨op, _, named, _⟩ := sound _ _ meets
    cases unnamed.symm.trans (Op.named?_eq_some_iff.mpr named)
  | command command meets =>
    obtain ⟨op, evaluable, named, _⟩ := sound _ _ meets
    obtain rfl : op = .command command := Op.name_injective named
    cases evaluable
  | arity op _ meets wrong =>
    obtain ⟨other, _, named, right⟩ := sound _ _ meets
    obtain rfl := Op.name_injective named
    exact absurd right wrong

variable [MathLibrary]

/-- What has a value mentions only what has one. -/
theorem Evaluates.of_mentions (value : Evaluates E e x) (mentions : Mentions E e f) :
    ∃ y, Evaluates E f y := by
  cases mentions with
  | link found =>
    cases value with
    | link other value =>
      cases found.symm.trans other
      exact ⟨x, value⟩
  | argument member =>
    cases value with
    | binary op left right =>
      rcases List.mem_cons.mp member with rfl | second
      · exact ⟨_, left⟩
      · exact ⟨_, List.mem_singleton.mp second ▸ right⟩
    | unary op operand => exact ⟨_, List.mem_singleton.mp member ▸ operand⟩

/-- What is met on the way from a formula with a value has a value itself. -/
theorem Evaluates.of_meets (value : Evaluates E e x) (meets : Meets E e f) : ∃ y, Evaluates E f y := by
  have walk := meets_iff_walk.mp meets
  induction walk with
  | refl => exact ⟨x, value⟩
  | tail walked mentions ih =>
    obtain ⟨y, between⟩ := ih (meets_iff_walk.mpr walked)
    exact between.of_mentions mentions

theorem Evaluates.operation_sound (value : Evaluates E (.operation name args) x) :
    ∃ op : Op, op.isEvaluable ∧ op.name = name ∧ args.length = op.arity := by
  cases value with
  | binary op => exact ⟨.binary op, rfl, rfl, rfl⟩
  | unary op => exact ⟨.unary op, rfl, rfl, rfl⟩

theorem Evaluates.evaluableOperations (value : Evaluates E e x) : EvaluableOperations E e := by
  intro name args meets
  obtain ⟨_, worked⟩ := value.of_meets meets
  exact worked.operation_sound

theorem Evaluates.not_lacks (value : Evaluates E e x) : ¬Lacks E e name := by
  intro lacks
  obtain ⟨leads, missing⟩ := lacks_iff.mp lacks
  obtain ⟨_, worked⟩ := value.of_meets (meets_var_iff.mpr leads)
  cases worked with
  | link found => cases missing.symm.trans found

/-- The search for unbound names comes as far as evaluation. -/
theorem unboundNames_covers_toDouble (E : Bindings) (e : Expr) :
    Covers (E.unboundNames [] e) (E.toDouble [] e) :=
  (unboundNames_covers_simplify .nil).trans (simplify_covers_toDouble .nil)

theorem Evaluates.unboundNames_eq (value : Evaluates E e x) : E.unboundNames [] e = .ok ∅ := by
  obtain ⟨set, searched⟩ := (unboundNames_covers_toDouble E e).ends x value.toDouble_nil
  have empty : set = ∅ := NameSet.ext fun name =>
    iff_of_false (fun listed => value.not_lacks ((mem_unboundNames_iff searched).mp listed))
      (NameSet.not_mem_empty name)
  exact empty ▸ searched

theorem Fails.evaluationFault (fault : Fails E e error) : EvaluationFault E e error := by
  induction fault with
  | unbound missing => exact .undefined (.occurs (by simp)) missing
  | link found _ ih => exact ih.of_mentions (.link found)
  | unknown unnamed => exact .unknown (.within (.self _)) unnamed
  | command command => exact .command command (.within (.self _))
  | arity op evaluable wrong => exact .arity op evaluable (.within (.self _)) wrong
  | left op _ ih | right op _ _ ih | operand op _ ih => exact ih.of_mentions (.argument (by simp))

/-- Evaluation reports a fault of the formula or a circle, and nothing else. -/
theorem fault_or_circle_of_toDouble (failed : E.toDouble [] e = .error error) :
    EvaluationFault E e error ∨ ∃ names, error = .cyclicDefinition names ∧ Circle E e names := by
  rcases fails_of_toDouble failed with fault | ⟨names, rfl⟩
  · exact .inl fault.evaluationFault
  · exact .inr ⟨names, rfl, (reports_of_toDouble failed).circle⟩

/-- A formula that is complete and has sound operations has a value. -/
theorem exists_value (searched : E.unboundNames [] e = .ok ∅) (sound : EvaluableOperations E e) :
    ∃ x, E.toDouble [] e = .ok x := by
  cases worked : E.toDouble [] e with
  | ok x => exact ⟨x, rfl⟩
  | error error =>
    rcases fails_of_toDouble worked with fault | ⟨names, rfl⟩
    · obtain ⟨name, _, lacks⟩ := fault.evaluationFault.lacks sound
      exact absurd ((mem_unboundNames_iff searched).mpr lacks) (NameSet.not_mem_empty name)
    · cases searched.symm.trans ((unboundNames_covers_toDouble E e).circle names worked)

/-- A name that evaluation reports as undefined stands for nothing, and the search lists it unless it reports a
circle. -/
theorem listed_of_undefined (failed : E.toDouble [] e = .error (.undefinedVariable name)) :
    E.find? name = none ∧ ((∃ names, E.unboundNames [] e = .error (.cyclicDefinition names)) ∨
      ∃ set, E.unboundNames [] e = .ok set ∧ name ∈ set) := by
  rcases fault_or_circle_of_toDouble failed with fault | ⟨_, none, _⟩
  · cases fault with
    | undefined leads missing =>
      refine ⟨missing, ?_⟩
      cases searched : E.unboundNames [] e with
      | ok set => exact .inr ⟨set, rfl, (mem_unboundNames_iff searched).mpr (lacks_iff.mpr ⟨leads, missing⟩)⟩
      | error error =>
        obtain ⟨names, rfl⟩ := unboundNames_error searched
        exact .inl ⟨names, rfl⟩
  · cases none

/-- A formula has a value exactly if the search for unbound names finds it complete and every operation in it, or in
what its names lead to, has a value as a number and the arguments that it takes. If it has none, the reason is such
a name, such an operation or a circle of definitions, and never a number: not a zero that divides, nor a power of a
negative number, an overflow or what is not a number. A name that is reported as undefined stands for nothing, and
the search lists it as well, or meets a circle. -/
theorem evaluation_domain (E : Bindings) (e : Expr) :
    ((∃ x, E.toDouble [] e = .ok x) ↔ E.unboundNames [] e = .ok ∅ ∧ EvaluableOperations E e) ∧
      (∀ error, E.toDouble [] e = .error error →
        EvaluationFault E e error ∨ ∃ names, error = .cyclicDefinition names ∧ Circle E e names) ∧
      ∀ name, E.toDouble [] e = .error (.undefinedVariable name) →
        E.find? name = none ∧ ((∃ names, E.unboundNames [] e = .error (.cyclicDefinition names)) ∨
          ∃ set, E.unboundNames [] e = .ok set ∧ name ∈ set) := by
  refine ⟨⟨?_, ?_⟩, fun _ => fault_or_circle_of_toDouble, fun _ => listed_of_undefined⟩
  · rintro ⟨x, worked⟩
    have value : Evaluates E e x := evaluates_of_toDouble worked
    exact ⟨value.unboundNames_eq, value.evaluableOperations⟩
  · rintro ⟨searched, sound⟩
    exact exists_value searched sound

end GraphCalc.Bindings

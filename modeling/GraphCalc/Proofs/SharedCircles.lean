import GraphCalc.Proofs.Circles
import GraphCalc.Proofs.Operations

/-!
# The circle that is met first

Evaluation, simplification and the search for unbound names walk over a formula each in its own way.
Evaluation gives up at a name without a binding and at a command, simplification at neither, the search not
even at an unknown operation; and simplification looks ahead along names before it enters a definition. All
three refuse to follow a name twice, and none of the differences shows in what they report of it.

The reason is that each walk comes at least as far as the one before: `Covers` says so of two outcomes. It
passes from the parts of a computation to the whole, so that each pair of walks needs one induction:
`simplify_covers_toDouble` and `unboundNames_covers_simplify`.
-/

namespace GraphCalc.Bindings

open Results

variable {E : Bindings} {chain : List String} {e : Expr} {α β γ δ : Type}

/-- One outcome comes at least as far as another: where the other is a result it is one too, and where the
other reports a circle it reports the same names. Other errors of the other one do not count. -/
structure Covers (wide : Except CalcError β) (narrow : Except CalcError α) : Prop where
  ends : ∀ a, narrow = .ok a → ∃ b, wide = .ok b
  circle : ∀ names, narrow = .error (.cyclicDefinition names) →
    wide = .error (.cyclicDefinition names)

namespace Covers

variable {wide : Except CalcError β} {narrow : Except CalcError α}

theorem ok (b : β) (a : α) : Covers (.ok b) (.ok a) := ⟨fun _ _ => ⟨b, rfl⟩, nofun⟩

theorem error (error : CalcError) :
    Covers (.error error : Except CalcError β) (.error error : Except CalcError α) :=
  ⟨nofun, fun _ same => by cases same; rfl⟩

/-- An error that reports no circle is covered by anything. -/
theorem fault {error : CalcError} (noCircle : ∀ names, error ≠ .cyclicDefinition names) :
    Covers wide (.error error : Except CalcError α) :=
  ⟨nofun, fun names same => absurd (Except.error.inj same) (noCircle names)⟩

theorem trans {widest : Except CalcError γ} (outer : Covers widest wide) (inner : Covers wide narrow) :
    Covers widest narrow := by
  refine ⟨fun a result => ?_, fun names result => outer.circle names (inner.circle names result)⟩
  obtain ⟨b, passed⟩ := inner.ends a result
  exact outer.ends b passed

theorem bind {next : β → Except CalcError δ} {other : α → Except CalcError γ}
    (first : Covers wide narrow)
    (rest : ∀ b a, wide = .ok b → narrow = .ok a → Covers (next b) (other a)) :
    Covers (wide >>= next) (narrow >>= other) := by
  cases narrow with
  | ok a =>
    obtain ⟨b, rfl⟩ := first.ends a rfl
    exact rest b a rfl rfl
  | error error =>
    refine ⟨nofun, fun names same => ?_⟩
    cases same
    have met := first.circle names rfl
    rw [met]
    rfl

/-- A list is worked through as far, if each of its items is. -/
theorem mapM {wide : Expr → Except CalcError β} {narrow : Expr → Except CalcError α}
    {args : List Expr} (each : ∀ a ∈ args, Covers (wide a) (narrow a)) :
    Covers (args.mapM wide) (args.mapM narrow) := by
  induction args with
  | nil => exact .ok [] []
  | cons a args ih =>
    obtain ⟨here, later⟩ := List.forall_mem_cons.mp each
    simp only [List.mapM_cons]
    exact here.bind fun _ _ _ _ => (ih later).bind fun _ _ _ _ => .ok _ _

end Covers

theorem unboundNames_of_calculable (calculable : E.isCalculable chain e = .ok true) :
    E.unboundNames chain e = .ok ∅ := by
  fun_induction isCalculable E chain e with
  | case1 chain x => exact unboundNames_number E chain x
  | case2 | case3 | case5 => cases calculable
  | case4 chain name fresh bound found ih =>
    simp only [unboundNames_var, found, if_neg fresh]
    exact ih calculable

/-- An operation is refused for its name or its number of arguments, and never as circular. -/
theorem checkArity_no_circle {name : String} {args : List Expr} {error : CalcError}
    (refused : Expr.checkArity name args = .error error) : ∀ names, error ≠ .cyclicDefinition names := by
  rcases Expr.checkArity_error refused with ⟨_, rfl⟩ | ⟨_, _, _, rfl⟩ <;> exact nofun

section

variable [MathLibrary]

/-- Where looking ahead along names meets a circle, evaluation and the search meet it as well. -/
theorem circle_ahead {error : CalcError} (asked : E.isCalculable chain e = .error error) :
    E.toDouble chain e = .error error ∧ E.unboundNames chain e = .error error := by
  fun_induction isCalculable E chain e with
  | case1 | case3 | case5 => cases asked
  | case2 chain name member =>
    cases asked
    simp [toDouble_var, unboundNames_var, resolve, member, Except.bind]
  | case4 chain name fresh bound found ih =>
    have link : E.resolve name chain = .ok (bound, chain ++ [name]) :=
      resolve_eq_ok_iff.mpr ⟨fresh, found, rfl⟩
    simp only [toDouble_var, unboundNames_var, link, found, if_neg fresh, Except.bind]
    exact ih asked

theorem toDouble_no_circle (E : Bindings) (chain : List String) {name : String} {args : List Expr}
    {error : CalcError} (refused : Expr.checkArity name args = .error error) :
    ∃ other, E.toDouble chain (.operation name args) = .error other ∧
      ∀ names, other ≠ .cyclicDefinition names := by
  rcases Expr.checkArity_error refused with ⟨unnamed, _⟩ | ⟨op, rfl, wrong, _⟩
  · exact ⟨_, toDouble_unknown args unnamed, nofun⟩
  · cases evaluable : op.isEvaluable with
    | true => exact ⟨_, toDouble_wrongArity evaluable wrong, nofun⟩
    | false => exact ⟨_, toDouble_of_not_evaluable evaluable args, nofun⟩

/-- Simplification comes as far as evaluation. -/
theorem simplify_covers_toDouble (followed : Followed E chain) :
    Covers (E.simplify chain e) (E.toDouble chain e) := by
  fun_induction simplify E chain e with
  | case1 chain x =>
    rw [toDouble_number]
    exact .ok _ _
  | case2 chain name unbound =>
    -- a name without a binding is not on the chain, so evaluation reports it as undefined
    have missing : E.find? name = none := Option.isNone_iff_eq_none.mp unbound
    have fresh : name ∉ chain := fun member => followed name member missing
    rw [toDouble_var, resolve, if_neg fresh, missing]
    exact .fault fun _ same => by cases same
  | case3 chain name _ error link =>
    rw [toDouble_var, link]
    exact .error error
  | case4 chain name _ bound extended link ih =>
    obtain ⟨_, found, rfl⟩ := resolve_eq_ok_iff.mp link
    rw [toDouble_var, link]
    show Covers _ (E.toDouble (chain ++ [name]) bound)
    cases asked : E.isCalculable (chain ++ [name]) bound with
    | error error =>
      rw [(circle_ahead asked).1]
      exact .error error
    | ok calculable =>
      cases calculable with
      | false => exact ih (followed.append found)
      | true =>
        obtain ⟨x, value, _⟩ := reduces_of_calculable asked
        rw [value]
        exact .ok _ _
  | case5 chain name args ih =>
    rw [← simplify_operation]
    cases checked : Expr.checkArity name args with
    | error error =>
      obtain ⟨other, result, noCircle⟩ := toDouble_no_circle E chain checked
      rw [result]
      exact .fault noCircle
    | ok op =>
      obtain ⟨rfl, arity⟩ := Expr.checkArity_eq_ok_iff.mp checked
      cases evaluable : op.isEvaluable with
      | false =>
        rw [toDouble_of_not_evaluable evaluable]
        exact .fault fun _ same => by cases same
      | true =>
        rw [simplify_of_arity arity followed, toDouble_of_arity evaluable arity (.general "")]
        refine (Covers.mapM fun a member => ih a member followed).bind fun _ values _ worked => ?_
        have enough : values.length = op.arity := (mapM_eq_ok_iff.mp worked).length_eq ▸ arity
        obtain ⟨x, applied⟩ := Op.exists_applyOr evaluable enough (.general "")
        rw [applied]
        exact .ok _ _

/-- The search for unbound names comes as far as simplification. -/
theorem unboundNames_covers_simplify (followed : Followed E chain) :
    Covers (E.unboundNames chain e) (E.simplify chain e) := by
  fun_induction simplify E chain e with
  | case1 chain x =>
    rw [unboundNames_number]
    exact .ok _ _
  | case2 chain name unbound =>
    have missing : E.find? name = none := Option.isNone_iff_eq_none.mp unbound
    have fresh : name ∉ chain := fun member => followed name member missing
    rw [unboundNames_var, if_neg fresh, missing]
    exact .ok _ _
  | case3 chain name bound error link =>
    refine ⟨fun _ same => (by cases same), fun names same => ?_⟩
    cases same
    rcases resolve_error link with ⟨member, same⟩ | ⟨_, none⟩
    · rw [unboundNames_var, if_pos member, same]
    · cases none
  | case4 chain name _ bound extended link ih =>
    obtain ⟨fresh, found, rfl⟩ := resolve_eq_ok_iff.mp link
    rw [unboundNames_var, if_neg fresh, found]
    show Covers (E.unboundNames (chain ++ [name]) bound) _
    cases asked : E.isCalculable (chain ++ [name]) bound with
    | error error =>
      rw [(circle_ahead asked).2]
      exact .error error
    | ok calculable =>
      cases calculable with
      | false => exact ih (followed.append found)
      | true =>
        obtain ⟨x, value, _⟩ := reduces_of_calculable asked
        rw [unboundNames_of_calculable asked, value]
        exact .ok _ _
  | case5 chain name args ih =>
    rw [← simplify_operation, unboundNames_operation]
    cases checked : Expr.checkArity name args with
    | error error =>
      rw [simplify_of_refused checked]
      exact .fault (checkArity_no_circle checked)
    | ok op =>
      obtain ⟨rfl, arity⟩ := Expr.checkArity_eq_ok_iff.mp checked
      rw [simplify_of_arity arity followed]
      exact (Covers.mapM fun a member => ih a member followed).bind fun _ _ _ _ => .ok _ _

/-- Evaluation, simplification and the search for unbound names report the same circle. A circle that
evaluation reports is reported by the other two with exactly the same names, and one that simplification
reports is reported so by the search. -/
theorem walks_report_same_circle (E : Bindings) (e : Expr) (names : List String) :
    (E.toDouble [] e = .error (.cyclicDefinition names) →
      E.simplify [] e = .error (.cyclicDefinition names) ∧
        E.unboundNames [] e = .error (.cyclicDefinition names)) ∧
      (E.simplify [] e = .error (.cyclicDefinition names) →
        E.unboundNames [] e = .error (.cyclicDefinition names)) := by
  have first : Covers (E.simplify [] e) (E.toDouble [] e) := simplify_covers_toDouble .nil
  have second : Covers (E.unboundNames [] e) (E.simplify [] e) := unboundNames_covers_simplify .nil
  exact ⟨fun reported => ⟨first.circle names reported, (second.trans first).circle names reported⟩,
    second.circle names⟩

end

/-- All three find the circle of `a` behind a number. Behind a name without a binding, where evaluation
gives up, the other two still do. -/
theorem walks_report_same_circle_behind_name :
    let E : Bindings := NameMap.ofList
      [("a", .operation UnaryOp.negate.name [.var "b"]), ("b", .var "a"), ("x", .number 2)]
    let bound : Expr := .operation BinaryOp.add.name [.var "x", .var "a"]
    let unbound : Expr := .operation BinaryOp.add.name [.var "y", .var "a"]
    let names := ["a", "b", "a"]
    E.toDouble [] bound = .error (.cyclicDefinition names) ∧
      E.simplify [] bound = .error (.cyclicDefinition names) ∧
      E.unboundNames [] bound = .error (.cyclicDefinition names) ∧
      E.toDouble [] unbound = .error (.undefinedVariable "y") ∧
      E.simplify [] unbound = .error (.cyclicDefinition names) ∧
      E.unboundNames [] unbound = .error (.cyclicDefinition names) := by
  intro E bound unbound names
  have aFound : E.find? "a" = some (.operation UnaryOp.negate.name [.var "b"]) := by decide
  have bFound : E.find? "b" = some (.var "a") := by decide
  have xFound : E.find? "x" = some (.number 2) := by decide
  have yMissing : E.find? "y" = none := by decide
  have sum : Expr.checkArity BinaryOp.add.name [.var "y", .var "a"] = .ok (.binary .add) := by decide
  have negation : Expr.checkArity UnaryOp.negate.name [.var "b"] = .ok (.unary .negate) := by decide
  have evaluated : E.toDouble [] bound = .error (.cyclicDefinition names) := by
    simp [bound, names, toDouble_binary, toDouble_unary, toDouble_var, resolve, aFound, bFound, xFound,
      bind, Except.bind]
  have undefined : E.toDouble [] unbound = .error (.undefinedVariable "y") := by
    simp [unbound, toDouble_binary, toDouble_var, resolve, yMissing, bind, Except.bind]
  have simplified : E.simplify [] unbound = .error (.cyclicDefinition names) := by
    simp [unbound, names, simplify_operation, reduceOperation, simplify_var, reduceBound, isCalculable_var, resolve,
      sum, negation, aFound, bFound, yMissing, bind, Except.bind]
  obtain ⟨reduced, searched⟩ := (walks_report_same_circle E bound names).1 evaluated
  exact ⟨evaluated, reduced, searched, undefined, simplified,
    (walks_report_same_circle E unbound names).2 simplified⟩

end GraphCalc.Bindings

import GraphCalc.Proofs.GuardedSimplification

/-!
# Asking before evaluating

Simplification evaluates nothing that it has not asked about first: whether a definition is calculable before it
takes its value, and whether all arguments are before it folds them. The question keeps a chain of its own of the
names that it follows. It follows them just as they are resolved, `isCalculable_var_iff_resolve`, so the answer is
never yes where evaluation would fail: `simplify_of_calculable`.

Arguments are asked about after they are simplified, along the chain of the names around them.
`isCalculable_guards_toDouble` says that both questions can be relied on.
-/

namespace GraphCalc.Bindings

variable {E : Bindings} {chain : List String} {name : String} {e r : Expr}

/-- A name is calculable exactly if it resolves, along the chain, to what is calculable. -/
theorem isCalculable_var_iff_resolve :
    E.isCalculable chain (.var name) = .ok true ↔
      ∃ bound extended,
        E.resolve name chain = .ok (bound, extended) ∧ E.isCalculable extended bound = .ok true := by
  rw [isCalculable_var]
  constructor
  · intro calculable
    by_cases circle : name ∈ chain
    · rw [if_pos circle] at calculable
      cases calculable
    · rw [if_neg circle] at calculable
      cases found : E.find? name with
      | none =>
        rw [found] at calculable
        cases calculable
      | some bound =>
        rw [found] at calculable
        exact ⟨bound, chain ++ [name], resolve_eq_ok_iff.mpr ⟨circle, found, rfl⟩, calculable⟩
  · rintro ⟨bound, extended, link, calculable⟩
    obtain ⟨fresh, found, rfl⟩ := resolve_eq_ok_iff.mp link
    rw [if_neg fresh, found]
    exact calculable

section

variable [MathLibrary]

/-- What is calculable has a value, and simplifies to it. -/
theorem simplify_of_calculable (calculable : E.isCalculable chain e = .ok true) :
    ∃ x, E.toDouble chain e = .ok x ∧ E.simplify chain e = .ok (.number x) := by
  cases e with
  | number x => exact ⟨x, toDouble_number E chain x, simplify_number E chain x⟩
  | var name =>
    obtain ⟨bound, extended, link, onwards⟩ := isCalculable_var_iff_resolve.mp calculable
    obtain ⟨x, value, _⟩ := reduces_of_calculable onwards
    have found : E.find? name = some bound := (resolve_eq_ok_iff.mp link).2.1
    refine ⟨x, ?_, ?_⟩
    · rw [toDouble_var, link]
      exact value
    · rw [simplify_var, if_neg (by simp [found]), link]
      simp only [Except.bind, onwards, value]
      rfl
  | operation name args =>
    rw [isCalculable_operation] at calculable
    cases calculable

/-- Among simplified formulas exactly the literals are calculable, and the question about them never fails. -/
theorem isCalculable_of_simplify (followed : Followed E chain) (result : E.simplify chain e = .ok r) :
    E.isCalculable chain r = .ok r.isNumber :=
  (reduces_of_simplify followed result).isCalculable_eq followed

/-- The question before an evaluation can be relied on. Whatever the bindings and the chain, a formula that is
calculable evaluates without a failure, and simplifies to its value. And along a chain of bound names, the question
about a simplified formula never fails, and is answered with yes exactly if the formula is a literal. -/
theorem isCalculable_guards_toDouble (E : Bindings) (chain : List String) (e : Expr) :
    (E.isCalculable chain e = .ok true →
      ∃ x, E.toDouble chain e = .ok x ∧ E.simplify chain e = .ok (.number x)) ∧
    ∀ r, E.simplify chain e = .ok r → (∀ name ∈ chain, E.find? name ≠ none) →
      ∃ answer, E.isCalculable chain r = .ok answer ∧ (answer = true ↔ ∃ x, r = .number x) := by
  refine ⟨simplify_of_calculable, fun r result followed => ?_⟩
  refine ⟨r.isNumber, isCalculable_of_simplify followed result, ?_⟩
  cases r <;> simp [Expr.isNumber]

end

/-- Met behind `c`, the name `a` is calculable by way of `b`, and the sum of `a` and an unbound name is simplified
to what is not. -/
theorem isCalculable_guards_toDouble_behind_name :
    let E : Bindings := ((NameMap.insert ∅ "c" (.var "a")).insert "a" (.var "b")).insert "b" (.number 2)
    let sum (a : Expr) : Expr := .operation BinaryOp.add.name [a, .var "z"]
    E.isCalculable ["c"] (.var "a") = .ok true ∧
      (∃ x, E.toDouble ["c"] (.var "a") = .ok x ∧ E.simplify ["c"] (.var "a") = .ok (.number x)) ∧
      E.simplify ["c"] (sum (.var "a")) = .ok (sum (.number 2)) ∧ (∀ name ∈ ["c"], E.find? name ≠ none) ∧
      ∃ answer, E.isCalculable ["c"] (sum (.number 2)) = .ok answer ∧
        (answer = true ↔ ∃ x, sum (.number 2) = .number x) := by
  intro E sum
  have aFound : E.find? "a" = some (.var "b") := by decide
  have bFound : E.find? "b" = some (.number 2) := by decide
  have zMissing : E.find? "z" = none := by decide
  have bound : ∀ name ∈ ["c"], E.find? name ≠ none := by decide
  have calculable : E.isCalculable ["c"] (.var "a") = .ok true := by
    simp [isCalculable_var, aFound, bFound]
  have simplified : E.simplify ["c"] (sum (.var "a")) = .ok (sum (.number 2)) := by
    have sound : Expr.checkArity BinaryOp.add.name [.var "a", .var "z"] = .ok (.binary .add) :=
      Expr.checkArity_eq_ok_iff.mpr ⟨rfl, rfl⟩
    simp [sum, simplify_operation, simplify_var, sound, resolve, aFound, bFound, zMissing, isCalculable_var,
      toDouble_var, foldValue?, foldValueBy, reduceBound, reduceOperation, BinaryOp.folds, bind, Except.bind, pure,
      Except.pure]
  exact ⟨calculable, (isCalculable_guards_toDouble E ["c"] (.var "a")).1 calculable, simplified, bound,
    (isCalculable_guards_toDouble E ["c"] (sum (.var "a"))).2 _ simplified bound⟩

end GraphCalc.Bindings

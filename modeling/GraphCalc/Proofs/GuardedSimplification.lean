import GraphCalc.Proofs.Reduction

/-!
# Guarded simplification

Simplification refuses to enter a name that it is already following, and it asks of each definition
whether it is a number in disguise before it reduces it; the rules of reduction know neither. This
module compares the two: `simplify_eq_ok_iff_reduces` says that simplification succeeds exactly where a
reduced form exists, and returns it.
-/

namespace GraphCalc.Bindings

open Results

variable {E : Bindings} {chain : List String} {e r : Expr}

/-- The names of a chain are bound, as they are once they have been followed. -/
def Followed (E : Bindings) (chain : List String) : Prop := ∀ name ∈ chain, E.find? name ≠ none

theorem Followed.nil : Followed E [] := nofun

theorem Followed.append {name : String} {bound : Expr} (followed : Followed E chain)
    (found : E.find? name = some bound) : Followed E (chain ++ [name]) := by
  intro other member
  rcases List.mem_append.mp member with earlier | last
  · exact followed other earlier
  · obtain rfl := List.mem_singleton.mp last
    simp [found]

variable [MathLibrary]

/-- Of reduced formulas exactly the literals are calculable. -/
theorem Reduces.isCalculable_eq (reduces : Reduces E e r) (followed : Followed E chain) :
    E.isCalculable chain r = .ok r.isNumber := by
  rcases reduces.shape with ⟨x, rfl⟩ | ⟨name, rfl, missing⟩ | ⟨name, args, rfl⟩
  · exact isCalculable_number E chain x
  · have fresh : name ∉ chain := fun member => followed name member missing
    rw [isCalculable_var, if_neg fresh, missing]
    rfl
  · exact isCalculable_operation E chain name args

/-- On arguments of which exactly the literals are calculable, an operation gives way to its value
where it has a constant one. -/
theorem foldValue?_eq {op : Op} {args : List Expr} (arity : args.length = op.arity)
    (calculable : ∀ a ∈ args, E.isCalculable chain a = .ok a.isNumber) :
    E.foldValue? chain op args = .ok (op.constant? args) := by
  cases op with
  | binary op =>
    obtain ⟨a, b, rfl⟩ := List.length_eq_two.mp arity
    have first := calculable a (by simp)
    have second := calculable b (by simp)
    simp only [foldValue?, foldValueBy, first, second]
    cases folds : op.folds <;> cases a <;> cases b <;>
      simp [Op.constant?, folds, Expr.isNumber, bind, Except.bind, pure, Except.pure]
  | unary op =>
    obtain ⟨a, rfl⟩ := List.length_eq_one_iff.mp arity
    have only := calculable a (by simp)
    simp only [foldValue?, foldValueBy, only]
    cases folds : op.folds <;> cases a <;>
      simp [Op.constant?, folds, Expr.isNumber, bind, Except.bind, pure, Except.pure]
  | command command => rfl

/-- The last step of simplifying an operation, once its arguments are reduced. -/
theorem fold_reduced {op : Op} {args reduced : List Expr} (arity : args.length = op.arity)
    (pairs : List.Forall₂ (Reduces E) args reduced) (followed : Followed E chain) :
    (do
      match ← E.foldValue? chain op reduced with
      | some value => return Expr.number value
      | none => return Expr.operation op.name reduced) = Except.ok (op.reduce reduced) := by
  have calculable : ∀ b ∈ reduced, E.isCalculable chain b = .ok b.isNumber := by
    intro b member
    obtain ⟨a, _, reduces⟩ := exists_of_mem_right pairs member
    exact reduces.isCalculable_eq followed
  rw [foldValue?_eq (pairs.length_eq ▸ arity) calculable]
  unfold Op.reduce
  cases op.constant? reduced <;> rfl

/-- What is calculable is worth the double that it reduces to. -/
theorem reduces_of_calculable (calculable : E.isCalculable chain e = .ok true) :
    ∃ x, E.toDouble chain e = .ok x ∧ Reduces E e (.number x) := by
  fun_induction isCalculable E chain e with
  | case1 chain x => exact ⟨x, toDouble_number E chain x, .number x⟩
  | case2 => cases calculable
  | case3 => cases calculable
  | case4 chain name fresh bound found ih =>
    obtain ⟨x, value, reduces⟩ := ih calculable
    have link : E.resolve name chain = .ok (bound, chain ++ [name]) :=
      resolve_eq_ok_iff.mpr ⟨fresh, found, rfl⟩
    refine ⟨x, ?_, .link found reduces⟩
    rw [toDouble_var, link]
    exact value
  | case5 => cases calculable

/-- What simplification returns is the reduced form. -/
theorem reduces_of_simplify (followed : Followed E chain) (result : E.simplify chain e = .ok r) :
    Reduces E e r := by
  fun_induction simplify E chain e generalizing r with
  | case1 chain x =>
    cases result
    exact .number x
  | case2 chain name unbound =>
    cases result
    exact .unbound (Option.isNone_iff_eq_none.mp unbound)
  | case3 => cases result
  | case4 chain name _ bound extended link ih =>
    obtain ⟨_, found, rfl⟩ := resolve_eq_ok_iff.mp link
    obtain ⟨calculable, asked, result⟩ := bind_eq_ok_iff.mp result
    cases calculable with
    | false => exact .link found (ih (followed.append found) result)
    | true =>
      obtain ⟨x, value, reduces⟩ := reduces_of_calculable asked
      obtain ⟨y, other, result⟩ := bind_eq_ok_iff.mp result
      cases result
      cases value.symm.trans other
      exact .link found reduces
  | case5 chain name args ih =>
    obtain ⟨op, checked, result⟩ := bind_eq_ok_iff.mp result
    obtain ⟨rfl, arity⟩ := Expr.checkArity_eq_ok_iff.mp checked
    obtain ⟨reduced, worked, result⟩ := bind_eq_ok_iff.mp result
    have simplified := mapM_eq_ok_iff.mp worked
    have pairs : List.Forall₂ (Reduces E) args reduced :=
      forall₂_of_zip simplified.length_eq fun a b pair =>
        ih a (List.of_mem_zip pair).1 followed (List.forall₂_zip simplified pair)
    cases (fold_reduced arity pairs followed).symm.trans result
    exact .of_pairs op arity pairs

theorem simplify_of_refused {name : String} {args : List Expr} {error : CalcError}
    (refused : Expr.checkArity name args = .error error) :
    E.simplify chain (.operation name args) = .error error := by
  rw [simplify_operation, refused]
  rfl

/-- A sound operation is simplified by simplifying its arguments; what follows cannot fail. -/
theorem simplify_of_arity {op : Op} {args : List Expr} (arity : args.length = op.arity)
    (followed : Followed E chain) :
    E.simplify chain (.operation op.name args) = (do
      let reduced ← args.mapM (E.simplify chain)
      return op.reduce reduced) := by
  rw [simplify_operation, Expr.checkArity_eq_ok_iff.mpr ⟨rfl, arity⟩]
  cases worked : args.mapM (E.simplify chain) with
  | error error => rfl
  | ok reduced =>
    have pairs : List.Forall₂ (Reduces E) args reduced :=
      (mapM_eq_ok_iff.mp worked).imp fun _ _ => reduces_of_simplify followed
    exact fold_reduced arity pairs followed

/-- A formula with a reduced form is not calculable, or it is a number in disguise. -/
theorem Reduces.calculable_cases (reduces : Reduces E e r) (followed : Followed E chain)
    (clear : ¬Returns (Mentions E) chain e) :
    E.isCalculable chain e = .ok false ∨
      ∃ x, E.isCalculable chain e = .ok true ∧ E.toDouble chain e = .ok x ∧ r = .number x := by
  induction reduces generalizing chain with
  | number x => exact .inr ⟨x, isCalculable_number E chain x, toDouble_number E chain x, rfl⟩
  | @unbound name missing =>
    have fresh : name ∉ chain := fun member => followed name member missing
    rw [isCalculable_var, if_neg fresh, missing]
    exact .inl rfl
  | @link name bound r found _ ih =>
    obtain ⟨fresh, onwards⟩ := Returns.not_link (.link found) clear
    rw [isCalculable_var, if_neg fresh, found, toDouble_var,
      resolve_eq_ok_iff.mpr ⟨fresh, found, rfl⟩]
    exact ih (followed.append found) onwards
  | operation => exact .inl (isCalculable_operation E chain _ _)

/-- Simplification finds the reduced form of a formula that does not lead back to the names being
followed. -/
theorem Reduces.simplify (reduces : Reduces E e r) (followed : Followed E chain)
    (clear : ¬Returns (Mentions E) chain e) : E.simplify chain e = .ok r := by
  induction reduces generalizing chain with
  | number x => exact simplify_number E chain x
  | unbound missing => rw [simplify_var, if_pos (Option.isNone_iff_eq_none.mpr missing)]
  | @link name bound r found reduces ih =>
    obtain ⟨fresh, onwards⟩ := Returns.not_link (.link found) clear
    rw [simplify_var, if_neg (by simp [found]), resolve_eq_ok_iff.mpr ⟨fresh, found, rfl⟩]
    rcases reduces.calculable_cases (followed.append found) onwards with
      asked | ⟨x, asked, value, rfl⟩
    · simp only [Except.bind, asked]
      exact ih (followed.append found) onwards
    · simp only [Except.bind, asked, value]
      rfl
  | @operation op args reduced arity paired each ih =>
    have simplified : List.Forall₂ (fun a b => E.simplify chain a = .ok b) args reduced :=
      forall₂_of_zip paired fun a b pair => ih a b pair followed fun returns =>
        clear (.step (.argument (List.of_mem_zip pair).1) returns)
    rw [simplify_operation, Expr.checkArity_eq_ok_iff.mpr ⟨rfl, arity⟩,
      show args.mapM (E.simplify chain) = .ok reduced from mapM_eq_ok_iff.mpr simplified]
    exact fold_reduced arity (forall₂_of_zip paired each) followed

/-- Simplification succeeds exactly where a reduced form exists, and returns it. -/
theorem simplify_eq_ok_iff_reduces : E.simplify [] e = .ok r ↔ Reduces E e r :=
  ⟨reduces_of_simplify .nil, fun reduces => reduces.simplify .nil reduces.grounded.not_returns⟩

end GraphCalc.Bindings

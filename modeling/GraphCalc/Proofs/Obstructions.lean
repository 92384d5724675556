import GraphCalc.Proofs.GuardedSimplification
import Mathlib.Data.List.Basic

/-!
# Obstructions to reduction

Why a formula has no reduced form, by rules alone: somewhere in it, or in what its names stand for, is an
operation that is unknown or has the wrong number of arguments. The first one on the way counts, where
arguments are worked out from left to right and an operation is looked at before its arguments. A formula
caught in a circle of definitions before that has neither a reduced form nor an obstruction.

`Visits` says how far a reduction gets. `simplify_eq_error_iff_obstructed` says that simplification
reports exactly the obstructions, circles apart.
-/

namespace GraphCalc.Bindings

open Relation Results

variable {E : Bindings} {chain : List String} {e f r : Expr} {error : CalcError}

/-- Looking ahead along names fails only where they run in a circle. -/
theorem isCalculable_error (result : E.isCalculable chain e = .error error) :
    ∃ names, error = .cyclicDefinition names := by
  fun_induction isCalculable E chain e with
  | case1 | case3 | case5 => cases result
  | case2 =>
    cases result
    exact ⟨_, rfl⟩
  | case4 _ _ _ _ _ ih => exact ih result

variable [MathLibrary]

/-- A formula has some reduced form. -/
def Reducible (E : Bindings) (e : Expr) : Prop := ∃ r, Reduces E e r

/-- A formula has no reduced form, for the reason that an error gives. -/
inductive Obstructed (E : Bindings) : Expr → CalcError → Prop
  | link {name : String} {bound : Expr} {error : CalcError} (found : E.find? name = some bound)
      (obstructed : Obstructed E bound error) : Obstructed E (.var name) error
  | unknown {name : String} {args : List Expr} (unnamed : Op.named? name = none) :
      Obstructed E (.operation name args) (.unknownOperation name none)
  | arity (op : Op) {args : List Expr} (wrong : args.length ≠ op.arity) :
      Obstructed E (.operation op.name args) (.wrongArity op.name op.arity args.length)
  | argument (op : Op) {before after : List Expr} {a : Expr} {error : CalcError}
      (arity : (before ++ a :: after).length = op.arity) (earlier : ∀ b ∈ before, Reducible E b)
      (obstructed : Obstructed E a error) :
      Obstructed E (.operation op.name (before ++ a :: after)) error

/-- The reduction of one formula gets to another. An argument is reached once all before it are
reduced. -/
inductive Visits (E : Bindings) : Expr → Expr → Prop
  | link {name : String} {bound : Expr} (found : E.find? name = some bound) :
      Visits E (.var name) bound
  | argument (op : Op) {before after : List Expr} {a : Expr}
      (arity : (before ++ a :: after).length = op.arity) (earlier : ∀ b ∈ before, Reducible E b) :
      Visits E (.operation op.name (before ++ a :: after)) a

theorem Visits.mentions (visits : Visits E e f) : Mentions E e f := by
  cases visits with
  | link found => exact .link found
  | argument => exact .argument (by simp)

theorem Visits.of_link {name : String} {bound : Expr} (visits : Visits E (.var name) f)
    (found : E.find? name = some bound) : f = bound := by
  cases visits with
  | link other => exact Option.some.inj (other.symm.trans found)

theorem Visits.sound {name : String} {args : List Expr} (visits : Visits E (.operation name args) f) :
    ∃ op : Op, op.name = name ∧ args.length = op.arity := by
  cases visits with
  | argument op arity => exact ⟨op, rfl, arity⟩

/-- A reduced form of an operation comes from reduced forms of its arguments. -/
theorem reduces_operation_iff {op : Op} {args : List Expr} :
    Reduces E (.operation op.name args) r ↔
      args.length = op.arity ∧ ∃ reduced, List.Forall₂ (Reduces E) args reduced ∧
        r = op.reduce reduced := by
  constructor
  · generalize same : Expr.operation op.name args = e
    intro reduces
    cases reduces with
    | number | unbound | link => cases same
    | operation other arity paired each =>
      obtain ⟨named, rfl⟩ := Expr.operation.inj same
      obtain rfl := Op.name_injective named
      exact ⟨arity, _, forall₂_of_zip paired each, rfl⟩
  · rintro ⟨arity, reduced, pairs, rfl⟩
    exact .of_pairs op arity pairs

theorem Reduces.sound {name : String} {args : List Expr}
    (reduces : Reduces E (.operation name args) r) :
    ∃ op : Op, op.name = name ∧ args.length = op.arity ∧ ∀ a ∈ args, Reducible E a := by
  cases reduces with
  | operation op arity paired each =>
    refine ⟨op, rfl, arity, fun a member => ?_⟩
    obtain ⟨b, _, reduced⟩ := exists_of_mem_left (forall₂_of_zip paired each) member
    exact ⟨b, reduced⟩

/-- The reduction of a formula with a reduced form gets everywhere, and finds a reduced form
everywhere. -/
theorem Reducible.visits (reducible : Reducible E e) (mentions : Mentions E e f) :
    Visits E e f ∧ Reducible E f := by
  obtain ⟨r, reduces⟩ := reducible
  cases mentions with
  | link found =>
    refine ⟨.link found, ?_⟩
    cases reduces with
    | unbound missing => cases missing.symm.trans found
    | link other reduced =>
      cases found.symm.trans other
      exact ⟨r, reduced⟩
  | argument member =>
    obtain ⟨op, rfl, arity, each⟩ := reduces.sound
    obtain ⟨before, after, rfl⟩ := List.append_of_mem member
    exact ⟨.argument op arity fun b earlier => each b (by simp [earlier]), each f member⟩

theorem Reducible.walk (reducible : Reducible E e) (walk : ReflTransGen (Mentions E) e f) :
    ReflTransGen (Visits E) e f ∧ Reducible E f := by
  induction walk with
  | refl => exact ⟨.refl, reducible⟩
  | tail _ step ih =>
    obtain ⟨visits, next⟩ := ih.2.visits step
    exact ⟨ih.1.tail visits, next⟩

/-- What leads back by way of anything mentioned does so by way of what the reduction gets to. -/
theorem Reducible.returns (reducible : Reducible E e) (returns : Returns (Mentions E) chain e) :
    Returns (Visits E) chain e := by
  obtain ⟨f, walk, comesBack⟩ := returns
  obtain ⟨visited, onwards⟩ := reducible.walk walk
  refine ⟨f, visited, comesBack.imp_left fun round => ?_⟩
  obtain ⟨g, step, back⟩ := TransGen.head'_iff.mp round
  obtain ⟨visits, next⟩ := onwards.visits step
  exact TransGen.head' visits (next.walk back).1

theorem Reducible.grounded (reducible : Reducible E e) : Grounded (Visits E) e := by
  obtain ⟨r, reduces⟩ := reducible
  exact Subrelation.accessible (fun visits => Visits.mentions visits) reduces.grounded

/-- What has a reduced form has no obstruction. -/
theorem Obstructed.not_reducible (obstructed : Obstructed E e error) : ¬Reducible E e := by
  induction obstructed with
  | link found _ ih => exact fun reducible => ih (reducible.visits (.link found)).2
  | unknown unnamed =>
    rintro ⟨r, reduces⟩
    obtain ⟨op, named, _⟩ := reduces.sound
    cases unnamed.symm.trans (Op.named?_eq_some_iff.mpr named)
  | arity op wrong =>
    rintro ⟨r, reduces⟩
    exact wrong (reduces_operation_iff.mp reduces).1
  | argument op _ _ _ ih => exact fun reducible => ih (reducible.visits (.argument (by simp))).2

/-- An obstruction lies at a definite place: up to it, a reduction meets nothing circular. -/
theorem Obstructed.grounded (obstructed : Obstructed E e error) : Grounded (Visits E) e := by
  induction obstructed with
  | link found _ ih => exact .of_steps fun f visits => visits.of_link found ▸ ih
  | unknown unnamed =>
    refine .of_steps fun f visits => ?_
    obtain ⟨op, named, _⟩ := visits.sound
    cases unnamed.symm.trans (Op.named?_eq_some_iff.mpr named)
  | arity op wrong =>
    refine .of_steps fun f visits => ?_
    obtain ⟨other, named, right⟩ := visits.sound
    obtain rfl := Op.name_injective named
    exact absurd right wrong
  | @argument op before after a _ _ earlier obstructed ih =>
    refine .of_steps fun f visits => ?_
    generalize same : Expr.operation op.name (before ++ a :: after) = e at visits
    cases visits with
    | link => cases same
    | argument _ _ reached =>
      -- the argument that is got to stands after the obstructed one, is it, or stands before it
      rcases mem_or_eq_or_mem_of_split (Expr.operation.inj same).2 with late | rfl | early
      · exact absurd (reached a late) obstructed.not_reducible
      · exact ih
      · exact (earlier f early).grounded

theorem checkArity_error {name : String} {args : List Expr}
    (result : Expr.checkArity name args = .error error) :
    Obstructed E (.operation name args) error := by
  rcases Expr.checkArity_error result with ⟨unnamed, rfl⟩ | ⟨op, rfl, wrong, rfl⟩
  · exact .unknown unnamed
  · exact .arity op wrong

/-- Simplification fails at an obstruction, or reports a circle. -/
theorem obstructed_of_simplify (followed : Followed E chain)
    (result : E.simplify chain e = .error error) :
    Obstructed E e error ∨ ∃ names, error = .cyclicDefinition names := by
  fun_induction simplify E chain e generalizing error with
  | case1 => cases result
  | case2 => cases result
  | case3 chain name bound fault link =>
    cases result
    rcases resolve_error link with ⟨_, rfl⟩ | ⟨missing, _⟩
    · exact .inr ⟨_, rfl⟩
    · simp [missing] at bound
  | case4 chain name _ bound extended link ih =>
    obtain ⟨_, found, rfl⟩ := resolve_eq_ok_iff.mp link
    rcases bind_eq_error_iff.mp result with asked | ⟨calculable, asked, result⟩
    · exact .inr (isCalculable_error asked)
    · cases calculable with
      | false => exact (ih (followed.append found) result).imp_left (.link found)
      | true =>
        obtain ⟨x, value, _⟩ := reduces_of_calculable asked
        simp [value, bind, Except.bind, pure, Except.pure] at result
  | case5 chain name args ih =>
    rw [← simplify_operation] at result
    cases checked : Expr.checkArity name args with
    | error refused =>
      cases (simplify_of_refused checked).symm.trans result
      exact .inl (checkArity_error checked)
    | ok op =>
      obtain ⟨rfl, arity⟩ := Expr.checkArity_eq_ok_iff.mp checked
      rw [simplify_of_arity arity followed] at result
      rcases bind_eq_error_iff.mp result with worked | ⟨_, _, none⟩
      · obtain ⟨before, a, after, rfl, earlier, fault⟩ := mapM_eq_error_iff.mp worked
        have reducible : ∀ b ∈ before, Reducible E b := fun b member =>
          (earlier b member).imp fun _ simplified => reduces_of_simplify followed simplified
        exact (ih a (by simp) followed fault).imp_left (.argument op arity reducible)
      · cases none

/-- What is obstructed is no number in disguise. -/
theorem Obstructed.isCalculable_eq (obstructed : Obstructed E e error)
    (clear : ¬Returns (Visits E) chain e) : E.isCalculable chain e = .ok false := by
  induction obstructed generalizing chain with
  | link found _ ih =>
    obtain ⟨fresh, onwards⟩ := Returns.not_link (.link found) clear
    rw [isCalculable_var, if_neg fresh, found]
    exact ih onwards
  | unknown | arity | argument => exact isCalculable_operation E chain _ _

/-- Simplification reports the obstruction of a formula that does not lead back to the names being
followed. -/
theorem Obstructed.simplify (obstructed : Obstructed E e error) (followed : Followed E chain)
    (clear : ¬Returns (Visits E) chain e) : E.simplify chain e = .error error := by
  induction obstructed generalizing chain with
  | @link name bound error found obstructed ih =>
    obtain ⟨fresh, onwards⟩ := Returns.not_link (.link found) clear
    rw [simplify_var, if_neg (by simp [found]), resolve_eq_ok_iff.mpr ⟨fresh, found, rfl⟩]
    simp only [Except.bind, obstructed.isCalculable_eq onwards]
    exact ih (followed.append found) onwards
  | unknown unnamed =>
    rw [simplify_operation, Expr.checkArity, unnamed]
    rfl
  | arity op wrong =>
    rw [simplify_operation, Expr.checkArity, Op.named?_eq_some_iff.mpr rfl]
    simp only [if_neg wrong]
    rfl
  | @argument op before after a error arity earlier _ ih =>
    have simplified : ∀ b ∈ before, ∃ r, E.simplify chain b = .ok r := by
      intro b member
      obtain ⟨front, rest, rfl⟩ := List.append_of_mem member
      have step : Visits E (.operation op.name ((front ++ b :: rest) ++ a :: after)) b := by
        rw [List.append_assoc, List.cons_append] at arity ⊢
        exact .argument op arity fun c first => earlier c (by simp [first])
      obtain ⟨r, reduces⟩ := earlier b member
      exact ⟨r, reduces.simplify followed fun returns =>
        clear (.step step (Reducible.returns ⟨r, reduces⟩ returns))⟩
    have fault := ih followed fun returns => clear (.step (.argument op arity earlier) returns)
    have worked := mapM_eq_error_iff.mpr ⟨before, a, after, rfl, simplified, fault⟩
    rw [simplify_operation, Expr.checkArity_eq_ok_iff.mpr ⟨rfl, arity⟩, worked]
    rfl

/-- Simplification reports exactly the obstructions, circles apart. -/
theorem simplify_eq_error_iff_obstructed (noCircle : ∀ names, error ≠ .cyclicDefinition names) :
    E.simplify [] e = .error error ↔ Obstructed E e error := by
  constructor
  · intro result
    rcases obstructed_of_simplify .nil result with obstructed | ⟨names, same⟩
    · exact obstructed
    · exact absurd same (noCircle names)
  · exact fun obstructed => obstructed.simplify .nil obstructed.grounded.not_returns

end GraphCalc.Bindings

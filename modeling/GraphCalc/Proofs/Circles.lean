import GraphCalc.Proofs.GuardedEvaluation
import GraphCalc.Proofs.GuardedSimplification
import GraphCalc.UnboundNames
import Mathlib.Data.List.Chain

/-!
# Circles of definitions

A computation that finds itself following a name twice reports the names that it is following. This
module says what such a report is worth. `Reports` gives the rules by which a walk over a formula comes to
report names: it goes down into arguments and along bindings, and stops where it meets a name of its own
chain. Evaluation, simplification, the test for a number in disguise and the search for unbound names all
walk by these rules, each in its own order.

`reported_circle_is_genuine` says that the names reported are a circle of definitions that the formula
leads into: none is missing and none occurs twice before the circle closes.
-/

namespace GraphCalc.Bindings

open Results

variable {E : Bindings} {chain names : List String} {e : Expr}

/-- The definition of one name mentions another. -/
def Defines (E : Bindings) (name other : String) : Prop :=
  ∃ bound, E.find? name = some bound ∧ other ∈ bound.freeNames

/-- Names that a formula leads into, each of them defined by the next, up to one that was there before. -/
structure Circle (E : Bindings) (e : Expr) (names : List String) : Prop where
  long : 2 ≤ names.length
  entered : ∀ name ∈ names.head?, name ∈ e.freeNames
  linked : names.IsChain (Defines E)
  distinct : names.dropLast.Nodup
  bound : ∀ name ∈ names.dropLast, ∃ bound, E.find? name = some bound
  closed : ∀ name ∈ names.getLast?, name ∈ names.dropLast

/-- A walk from a formula, met while the names of a chain are being followed, reports names. -/
inductive Reports (E : Bindings) : List String → Expr → List String → Prop
  | here {chain : List String} {name : String} (member : name ∈ chain) :
      Reports E chain (.var name) (chain ++ [name])
  | link {chain names : List String} {name : String} {bound : Expr} (fresh : name ∉ chain)
      (found : E.find? name = some bound) (onwards : Reports E (chain ++ [name]) bound names) :
      Reports E chain (.var name) names
  | argument {chain names : List String} {name : String} {args : List Expr} {a : Expr}
      (member : a ∈ args) (below : Reports E chain a names) :
      Reports E chain (.operation name args) names

/-- A report goes on from the chain with a name of the formula, and with one definition after another
from there. -/
theorem Reports.linked (reports : Reports E chain e names) :
    ∃ name rest, names = chain ++ name :: rest ∧ name ∈ e.freeNames ∧
      (name :: rest).IsChain (Defines E) := by
  induction reports with
  | @here chain name => exact ⟨name, [], rfl, by simp, .singleton name⟩
  | @link chain names name bound fresh found _ ih =>
    obtain ⟨next, rest, rfl, occurs, linked⟩ := ih
    exact ⟨name, next :: rest, by simp, by simp, linked.cons_cons ⟨bound, found, occurs⟩⟩
  | argument member _ ih =>
    obtain ⟨name, rest, same, occurs, linked⟩ := ih
    exact ⟨name, rest, same, Expr.mem_freeNames_operation.mpr ⟨_, member, occurs⟩, linked⟩

/-- A report repeats a name at its end and nowhere before, if the chain repeats none; and all its names
are bound, if those of the chain are. -/
theorem Reports.closed (reports : Reports E chain e names) (distinct : chain.Nodup)
    (followed : Followed E chain) :
    names.dropLast.Nodup ∧ Followed E names.dropLast ∧
      ∀ name ∈ names.getLast?, name ∈ names.dropLast := by
  induction reports with
  | here member => simp [distinct, followed, member]
  | @link chain names name bound fresh found _ ih =>
    have apart : ∀ other ∈ chain, other ≠ name := fun other member same => fresh (same ▸ member)
    exact ih (by simpa [List.nodup_append, distinct] using apart) (followed.append found)
  | argument _ _ ih => exact ih distinct followed

theorem Reports.circle (reports : Reports E [] e names) : Circle E e names := by
  obtain ⟨name, rest, rfl, occurs, linked⟩ := reports.linked
  obtain ⟨distinct, followed, closed⟩ := reports.closed .nil .nil
  refine ⟨?_, by simpa using occurs, linked, distinct, fun other member => ?_, closed⟩
  · cases rest with
    | nil => simp at closed
    | cons next rest => simp
  · exact Option.ne_none_iff_exists'.mp (followed other member)

/-- What refuses to follow a name reports the chain of it. -/
theorem reports_of_resolve {name : String}
    (result : E.resolve name chain = .error (.cyclicDefinition names)) :
    Reports E chain (.var name) names := by
  rcases resolve_error result with ⟨member, same⟩ | ⟨_, none⟩
  · cases same
    exact .here member
  · cases none

theorem reports_of_isCalculable
    (result : E.isCalculable chain e = .error (.cyclicDefinition names)) :
    Reports E chain e names := by
  fun_induction isCalculable E chain e with
  | case1 | case3 | case5 => cases result
  | case2 chain name member =>
    cases result
    exact .here member
  | case4 chain name fresh bound found ih => exact .link fresh found (ih result)

theorem reports_of_unboundNames
    (result : E.unboundNames chain e = .error (.cyclicDefinition names)) :
    Reports E chain e names := by
  fun_induction unboundNames E chain e with
  | case1 | case3 => cases result
  | case2 chain name member =>
    cases result
    exact .here member
  | case4 chain name fresh bound found ih => exact .link fresh found (ih result)
  | case5 chain name args ih =>
    rcases bind_eq_error_iff.mp result with worked | ⟨sets, _, none⟩
    · obtain ⟨before, a, after, rfl, _, fault⟩ := mapM_eq_error_iff.mp worked
      exact .argument (by simp) (ih a (by simp) fault)
    · cases none

section

variable [MathLibrary]

theorem reports_of_toDouble (result : E.toDouble chain e = .error (.cyclicDefinition names)) :
    Reports E chain e names := by
  fun_induction toDouble E chain e with
  | case1 => cases result
  | case2 chain name error link =>
    cases result
    exact reports_of_resolve link
  | case3 chain name bound extended link ih =>
    obtain ⟨fresh, found, rfl⟩ := resolve_eq_ok_iff.mp link
    exact .link fresh found (ih result)
  | case4 | case5 | case7 | case9 => cases result
  | case6 chain name op known a b left right =>
    rcases bind_eq_error_iff.mp result with first | ⟨x, _, rest⟩
    · exact .argument (by simp) (left first)
    · rcases bind_eq_error_iff.mp rest with second | ⟨y, _, none⟩
      · exact .argument (by simp) (right second)
      · cases none
  | case8 chain name op known a operand =>
    rcases bind_eq_error_iff.mp result with only | ⟨x, _, none⟩
    · exact .argument (by simp) (operand only)
    · cases none

theorem reports_of_simplify (followed : Followed E chain)
    (result : E.simplify chain e = .error (.cyclicDefinition names)) : Reports E chain e names := by
  fun_induction simplify E chain e with
  | case1 | case2 => cases result
  | case3 chain name _ error link =>
    cases result
    exact reports_of_resolve link
  | case4 chain name _ bound extended link ih =>
    obtain ⟨fresh, found, rfl⟩ := resolve_eq_ok_iff.mp link
    refine .link fresh found ?_
    rcases bind_eq_error_iff.mp result with asked | ⟨calculable, asked, result⟩
    · exact reports_of_isCalculable asked
    · cases calculable with
      | false => exact ih (followed.append found) result
      | true =>
        -- a number in disguise has been found to be one without a circle
        obtain ⟨x, value, _⟩ := reduces_of_calculable asked
        simp [value, bind, Except.bind, pure, Except.pure] at result
  | case5 chain name args ih =>
    rw [← simplify_operation] at result
    cases checked : Expr.checkArity name args with
    | error error =>
      cases (simplify_of_refused checked).symm.trans result
      rcases Expr.checkArity_error checked with ⟨_, none⟩ | ⟨_, _, _, none⟩ <;> cases none
    | ok op =>
      obtain ⟨rfl, arity⟩ := Expr.checkArity_eq_ok_iff.mp checked
      rw [simplify_of_arity arity followed] at result
      rcases bind_eq_error_iff.mp result with worked | ⟨_, _, none⟩
      · obtain ⟨before, a, after, rfl, _, fault⟩ := mapM_eq_error_iff.mp worked
        exact .argument (by simp) (ih a (by simp) followed fault)
      · cases none

/-- A report of a circle is genuine, whichever computation makes it: the names reported are a circle of
definitions that the formula leads into. -/
theorem reported_circle_is_genuine
    (reported : E.toDouble [] e = .error (.cyclicDefinition names) ∨
      E.simplify [] e = .error (.cyclicDefinition names) ∨
      E.isCalculable [] e = .error (.cyclicDefinition names) ∨
      E.unboundNames [] e = .error (.cyclicDefinition names)) : Circle E e names := by
  rcases reported with result | result | result | result
  · exact (reports_of_toDouble result).circle
  · exact (reports_of_simplify .nil result).circle
  · exact (reports_of_isCalculable result).circle
  · exact (reports_of_unboundNames result).circle

end

/-- The name `a` leads into the circle of `b` and `c` without being part of it. -/
theorem reported_circle_is_genuine_behind_alias :
    let E : Bindings := NameMap.ofList [("a", .var "b"), ("b", .var "c"), ("c", .var "b")]
    let names := ["a", "b", "c", "b"]
    E.toDouble [] (.var "a") = .error (.cyclicDefinition names) ∧
      E.simplify [] (.var "a") = .error (.cyclicDefinition names) ∧
      E.isCalculable [] (.var "a") = .error (.cyclicDefinition names) ∧
      E.unboundNames [] (.var "a") = .error (.cyclicDefinition names) ∧
      Circle E (.var "a") names := by
  intro E names
  have aFound : E.find? "a" = some (.var "b") := by decide
  have bFound : E.find? "b" = some (.var "c") := by decide
  have cFound : E.find? "c" = some (.var "b") := by decide
  have evaluated : E.toDouble [] (.var "a") = .error (.cyclicDefinition names) := by
    simp [toDouble_var, resolve, aFound, bFound, cFound, names, Except.bind]
  refine ⟨evaluated, ?_, ?_, ?_, reported_circle_is_genuine (.inl evaluated)⟩
  · simp [simplify_var, reduceBound, isCalculable_var, resolve, aFound, bFound, cFound, names, Except.bind, bind]
  · simp [isCalculable_var, aFound, bFound, cFound, names]
  · simp [unboundNames_var, aFound, bFound, cFound, names]

end GraphCalc.Bindings

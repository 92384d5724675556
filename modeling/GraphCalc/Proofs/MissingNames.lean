import GraphCalc.UnboundNames
import GraphCalc.Proofs.PartialEvaluation

/-!
# Missing names

Which names a formula lacks, by rules alone: those without a binding that stand in it, or in what its names
stand for. The operations on the way do not matter. `mem_unboundNames_iff` says that the walk under the guard
lists these and no others, and `Reduces.exists_unboundNames` that it reports no circle in a formula with a
reduced form.

A reduced form lacks what the formula lacks, whatever is bound later: `Reduces.lacks_iff`.
-/

namespace GraphCalc.Bindings

open Results

variable {E E' : Bindings} {chain : List String} {e r : Expr} {name other : String}
  {args others : List Expr} {error : CalcError}

/-- A name without a binding stands in a formula, or in what a name of the formula stands for. -/
inductive Lacks (E : Bindings) : Expr → String → Prop
  | here {name : String} (missing : E.find? name = none) : Lacks E (.var name) name
  | link {name other : String} {bound : Expr} (found : E.find? name = some bound)
      (lacks : Lacks E bound other) : Lacks E (.var name) other
  | argument {f name : String} {args : List Expr} {a : Expr} (member : a ∈ args)
      (lacks : Lacks E a name) : Lacks E (.operation f args) name

theorem not_lacks_number (x : Float) : ¬Lacks E (.number x) name := nofun

theorem lacks_var_of_missing (missing : E.find? name = none) :
    Lacks E (.var name) other ↔ other = name := by
  constructor
  · intro lacks
    cases lacks with
    | here => rfl
    | link found => cases missing.symm.trans found
  · rintro rfl
    exact .here missing

theorem lacks_var_of_found {bound : Expr} (found : E.find? name = some bound) :
    Lacks E (.var name) other ↔ Lacks E bound other := by
  constructor
  · intro lacks
    cases lacks with
    | here missing => cases missing.symm.trans found
    | link same lacks =>
      cases found.symm.trans same
      exact lacks
  · exact .link found

theorem lacks_operation_iff {f : String} :
    Lacks E (.operation f args) name ↔ ∃ a ∈ args, Lacks E a name := by
  constructor
  · intro lacks
    cases lacks with
    | argument member lacks => exact ⟨_, member, lacks⟩
  · rintro ⟨a, member, lacks⟩
    exact .argument member lacks

/-- The names that the walk returns are the missing ones. -/
theorem mem_unboundNames_iff {set : NameSet} (result : E.unboundNames chain e = .ok set) :
    name ∈ set ↔ Lacks E e name := by
  fun_induction unboundNames E chain e generalizing set with
  | case1 chain x =>
    cases result
    simp [not_lacks_number]
  | case2 => cases result
  | case3 chain met _ missing =>
    cases result
    rw [NameSet.mem_singleton, lacks_var_of_missing missing]
  | case4 chain met _ bound found ih => rw [ih result, lacks_var_of_found found]
  | case5 chain f args ih =>
    obtain ⟨sets, worked, result⟩ := bind_eq_ok_iff.mp result
    cases result
    have each := mapM_eq_ok_iff.mp worked
    rw [NameSet.mem_foldl_union, lacks_operation_iff]
    constructor
    · rintro (none | ⟨set, listed, member⟩)
      · cases NameSet.not_mem_empty _ none
      · obtain ⟨a, below, walked⟩ := exists_of_mem_right each listed
        exact ⟨a, below, (ih a below walked).mp member⟩
    · rintro ⟨a, below, lacks⟩
      obtain ⟨set, listed, walked⟩ := exists_of_mem_left each below
      exact .inr ⟨set, listed, (ih a below walked).mpr lacks⟩

/-- The walk comes to its end in a formula that mentions nothing circular and does not lead back to the
names being followed. -/
theorem exists_unboundNames (grounded : Grounded (Mentions E) e)
    (clear : ¬Returns (Mentions E) chain e) : ∃ set, E.unboundNames chain e = .ok set := by
  induction grounded generalizing chain with
  | intro e _ ih =>
    cases e with
    | number x => exact ⟨∅, unboundNames_number E chain x⟩
    | var name =>
      have fresh : name ∉ chain := fun member => clear (.here member)
      rw [unboundNames_var, if_neg fresh]
      cases found : E.find? name with
      | none => exact ⟨_, rfl⟩
      | some bound =>
        exact ih bound (.link found) (Returns.not_link (.link found) clear).2
    | operation f args =>
      have each : ∀ a ∈ args, ∃ set, E.unboundNames chain a = .ok set := fun a member =>
        ih a (.argument member) fun returns => clear (.step (.argument member) returns)
      obtain ⟨sets, pairs⟩ := exists_forall₂ each
      rw [unboundNames_operation, mapM_eq_ok_iff.mpr pairs]
      exact ⟨_, rfl⟩

/-- The walk fails only where names run in a circle. -/
theorem unboundNames_error (failed : E.unboundNames chain e = .error error) :
    ∃ names, error = .cyclicDefinition names := by
  fun_induction unboundNames E chain e with
  | case1 | case3 => cases failed
  | case2 =>
    cases failed
    exact ⟨_, rfl⟩
  | case4 _ _ _ _ _ ih => exact ih failed
  | case5 chain f args ih =>
    rcases bind_eq_error_iff.mp failed with walked | ⟨_, _, none⟩
    · obtain ⟨before, a, after, rfl, _, fault⟩ := mapM_eq_error_iff.mp walked
      exact ih a (by simp) fault
    · cases none

theorem lacks_operation_congr {f : String}
    (pairs : List.Forall₂ (fun a b => ∀ name, Lacks E a name ↔ Lacks E b name) args others) :
    Lacks E (.operation f args) name ↔ Lacks E (.operation f others) name := by
  rw [lacks_operation_iff, lacks_operation_iff]
  constructor
  · rintro ⟨a, member, lacks⟩
    obtain ⟨b, listed, same⟩ := exists_of_mem_left pairs member
    exact ⟨b, listed, (same name).mp lacks⟩
  · rintro ⟨b, member, lacks⟩
    obtain ⟨a, listed, same⟩ := exists_of_mem_right pairs member
    exact ⟨a, listed, (same name).mpr lacks⟩

variable [MathLibrary]

theorem Reduces.exists_unboundNames (reduces : Reduces E e r) :
    ∃ set, E.unboundNames [] e = .ok set :=
  Bindings.exists_unboundNames reduces.grounded reduces.grounded.not_returns

/-- An operation that folds has literals for arguments, which lack nothing. -/
theorem lacks_reduce_iff {op : Op} :
    Lacks E (.operation op.name args) name ↔ Lacks E (op.reduce args) name := by
  cases constant : op.constant? args with
  | some x =>
    have literals : ∀ a ∈ args, ∃ y, a = .number y := by
      unfold Op.constant? at constant
      split at constant
      · simp
      · simp
      · cases constant
    rw [Op.reduce_of_constant constant, lacks_operation_iff]
    refine ⟨?_, fun lacks => absurd lacks (not_lacks_number x)⟩
    rintro ⟨a, member, lacks⟩
    obtain ⟨y, rfl⟩ := literals a member
    exact absurd lacks (not_lacks_number y)
  | none => rw [Op.reduce_of_not_constant constant]

theorem Lacks.congruence (E : Bindings) :
    Congruence E fun e f => ∀ name, Lacks E e name ↔ Lacks E f name where
  refl _ _ := Iff.rfl
  trans first second name := (first name).trans (second name)
  link found _ := lacks_var_of_found found
  operation pairs _ := lacks_operation_congr pairs
  reduce _ _ _ := lacks_reduce_iff

/-- A reduced form lacks the same names as the formula under all bindings that extend those of the
reduction. -/
theorem Reduces.lacks_iff (reduces : Reduces E e r) (larger : Extends E' E) :
    Lacks E' e name ↔ Lacks E' r name :=
  (Lacks.congruence E').of_reduces larger reduces name

end GraphCalc.Bindings

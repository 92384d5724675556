import GraphCalc.Proofs.Reachability

/-!
# The search for unbound names

The search goes down into every argument and along every definition, with only the names that it is following right
now on its chain. So it comes to a shared definition as often as it is mentioned, and it has to give up exactly in a
circle. `unboundNames_is_reachability` says what comes of it, in terms of names and definitions alone.

Nothing but names matters to the search: `SameNames.unboundNames_eq_ok_iff` lets operations, literals and numbers of
arguments be anything else.
-/

namespace GraphCalc.Bindings

open Relation

variable {E E' : Bindings} {e e' : Expr} {name other : String} {set : NameSet}

/-- Definitions lead on from a name to where its definition leads. -/
theorem transGen_defines_iff :
    TransGen (Defines E) name other ↔ ∃ bound, E.find? name = some bound ∧ LeadsTo E bound other := by
  constructor
  · intro linked
    induction linked with
    | single defines =>
      obtain ⟨bound, found, member⟩ := defines
      exact ⟨bound, found, .occurs member⟩
    | tail _ defines ih =>
      obtain ⟨bound, found, leads⟩ := ih
      exact ⟨bound, found, .onwards leads defines⟩
  · rintro ⟨bound, found, leads⟩
    induction leads with
    | occurs member => exact .single ⟨bound, found, member⟩
    | onwards _ defines ih => exact ih.tail defines

/-- A formula leads into a circle if it leads to a name whose definition leads back to the name. -/
theorem not_circleFree_iff :
    ¬CircleFree E e ↔ ∃ name bound, LeadsTo E e name ∧ E.find? name = some bound ∧ LeadsTo E bound name := by
  unfold CircleFree
  push Not
  refine exists_congr fun name => ?_
  rw [transGen_defines_iff, exists_and_left]

theorem circleFree_of_unboundNames (searched : E.unboundNames [] e = .ok set) : CircleFree E e :=
  circleFree_iff_grounded.mpr (grounded_of_unboundNames searched)

/-- The search reports circles and nothing else, and reports one wherever the formula leads into one. -/
theorem unboundNames_reports_iff :
    (∃ names, E.unboundNames [] e = .error (.cyclicDefinition names)) ↔ ¬CircleFree E e := by
  constructor
  · rintro ⟨names, reported⟩ clear
    exact clear.not_reports (reports_of_unboundNames reported)
  · intro circular
    cases searched : E.unboundNames [] e with
    | ok set => exact absurd (circleFree_of_unboundNames searched) circular
    | error error =>
      obtain ⟨names, rfl⟩ := unboundNames_error searched
      exact ⟨names, rfl⟩

theorem CircleFree.exists_unboundNames (clear : CircleFree E e) : ∃ set, E.unboundNames [] e = .ok set := by
  have grounded := circleFree_iff_grounded.mp clear
  exact Bindings.exists_unboundNames grounded grounded.not_returns

/-- What the search returns are the names without a binding that the formula leads to. -/
theorem mem_unboundNames_iff_leadsTo (searched : E.unboundNames [] e = .ok set) :
    name ∈ set ↔ LeadsTo E e name ∧ E.find? name = none :=
  (mem_unboundNames_iff searched).trans lacks_iff

/-- The same names stand in two formulas, and in what each name stands for. Operations, literals and numbers of
arguments may differ. -/
structure SameNames (E E' : Bindings) (e e' : Expr) : Prop where
  formulas : e.freeNames = e'.freeNames
  definitions : ∀ name, (E.find? name).map Expr.freeNames = (E'.find? name).map Expr.freeNames

namespace SameNames

theorem symm (same : SameNames E E' e e') : SameNames E' E e' e :=
  ⟨same.formulas.symm, fun name => (same.definitions name).symm⟩

theorem defines (same : SameNames E E' e e') (defines : Defines E name other) : Defines E' name other := by
  obtain ⟨bound, found, member⟩ := defines
  have listed : (E'.find? name).map Expr.freeNames = some bound.freeNames := by
    rw [← same.definitions name, found]
    rfl
  obtain ⟨bound', found', names⟩ := Option.map_eq_some_iff.mp listed
  exact ⟨bound', found', names ▸ member⟩

theorem leadsTo (same : SameNames E E' e e') (leads : LeadsTo E e name) : LeadsTo E' e' name := by
  induction leads with
  | occurs member => exact .occurs (same.formulas ▸ member)
  | onwards _ defines ih => exact .onwards ih (same.defines defines)

theorem leadsTo_iff (same : SameNames E E' e e') : LeadsTo E e name ↔ LeadsTo E' e' name :=
  ⟨same.leadsTo, same.symm.leadsTo⟩

theorem find?_eq_none_iff (same : SameNames E E' e e') : E.find? name = none ↔ E'.find? name = none := by
  rw [← Option.map_eq_none_iff (f := Expr.freeNames), same.definitions name, Option.map_eq_none_iff]

theorem circleFree (same : SameNames E E' e e') (clear : CircleFree E e) : CircleFree E' e' :=
  fun name leads round =>
    clear name (same.symm.leadsTo leads) (TransGen.mono (fun _ _ => same.symm.defines) _ _ round)

theorem circleFree_iff (same : SameNames E E' e e') : CircleFree E e ↔ CircleFree E' e' :=
  ⟨same.circleFree, same.symm.circleFree⟩

theorem unboundNames_eq_ok (same : SameNames E E' e e') (searched : E.unboundNames [] e = .ok set) :
    E'.unboundNames [] e' = .ok set := by
  obtain ⟨set', searched'⟩ := (same.circleFree (circleFree_of_unboundNames searched)).exists_unboundNames
  have alike : set' = set := NameSet.ext fun name => by
    rw [mem_unboundNames_iff_leadsTo searched', mem_unboundNames_iff_leadsTo searched, same.leadsTo_iff,
      same.find?_eq_none_iff]
  exact alike ▸ searched'

theorem unboundNames_eq_ok_iff (same : SameNames E E' e e') :
    E.unboundNames [] e = .ok set ↔ E'.unboundNames [] e' = .ok set :=
  ⟨same.unboundNames_eq_ok, same.symm.unboundNames_eq_ok⟩

end SameNames

/-- The search for unbound names is reachability. It reports a circle if and only if the formula leads to a name whose
definition leads back to it, and otherwise it returns exactly the names without a binding that the formula leads to.
Operations, literals and numbers of arguments play no part: where the same names stand in the formula and in the
definitions, the search comes to a report or to the same names. -/
theorem unboundNames_is_reachability (E : Bindings) (e : Expr) :
    ((∃ names, E.unboundNames [] e = .error (.cyclicDefinition names)) ↔
        ∃ name bound, LeadsTo E e name ∧ E.find? name = some bound ∧ LeadsTo E bound name) ∧
      ((¬∃ name bound, LeadsTo E e name ∧ E.find? name = some bound ∧ LeadsTo E bound name) →
        ∃ set, E.unboundNames [] e = .ok set ∧
          ∀ name, name ∈ set ↔ LeadsTo E e name ∧ E.find? name = none) ∧
      ∀ E' e', SameNames E E' e e' →
        ((∃ names, E.unboundNames [] e = .error (.cyclicDefinition names)) ↔
          ∃ names, E'.unboundNames [] e' = .error (.cyclicDefinition names)) ∧
        ∀ set, E.unboundNames [] e = .ok set ↔ E'.unboundNames [] e' = .ok set := by
  refine ⟨unboundNames_reports_iff.trans not_circleFree_iff, fun none => ?_, fun E' e' same => ⟨?_, fun set => ?_⟩⟩
  · have clear : CircleFree E e := by
      by_contra circular
      exact none (not_circleFree_iff.mp circular)
    obtain ⟨set, searched⟩ := clear.exists_unboundNames
    exact ⟨set, searched, fun name => mem_unboundNames_iff_leadsTo searched⟩
  · rw [unboundNames_reports_iff, unboundNames_reports_iff, same.circleFree_iff]
  · exact same.unboundNames_eq_ok_iff

end GraphCalc.Bindings

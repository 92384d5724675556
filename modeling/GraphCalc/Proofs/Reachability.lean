import GraphCalc.Proofs.Circles
import GraphCalc.Proofs.MissingNames
import GraphCalc.Proofs.NormalForms

/-!
# Where a formula leads

A formula leads to the names in it, to the names in what these stand for, and so on. `LeadsTo` says so in terms of
names and definitions alone, and `Meets` in the same terms which formulas are met on the way. Both are about walks:
`meets_iff_walk` says that what is met is what a walk over `Mentions` comes to.

`circleFree_iff_grounded` says that every walk from a formula ends exactly if the formula leads to no name that
leads back to itself. It is proved by way of the search for missing names: were there no such name, the search would
have no circle to report, and where it reports none, walks end.
-/

namespace GraphCalc.Bindings

open Relation Results

variable {E : Bindings} {chain names : List String} {e f g : Expr} {name other : String}

/-- A name occurs in a formula, or in the definition of a name that the formula leads to. -/
inductive LeadsTo (E : Bindings) (e : Expr) : String → Prop
  | occurs {name : String} (member : name ∈ e.freeNames) : LeadsTo E e name
  | onwards {name other : String} (leads : LeadsTo E e name) (defines : Defines E name other) :
      LeadsTo E e other

/-- A formula stands in another, or in the definition of a name that the other leads to. -/
inductive Meets (E : Bindings) (e : Expr) : Expr → Prop
  | within {f : Expr} (within : f.Within e) : Meets E e f
  | defined {name : String} {bound f : Expr} (leads : LeadsTo E e name)
      (found : E.find? name = some bound) (within : f.Within bound) : Meets E e f

/-- No name that a formula leads to leads back to itself. -/
def CircleFree (E : Bindings) (e : Expr) : Prop :=
  ∀ name, LeadsTo E e name → ¬TransGen (Defines E) name name

theorem meets_var_iff : Meets E e (.var name) ↔ LeadsTo E e name := by
  constructor
  · intro meets
    cases meets with
    | within within => exact .occurs (Expr.mem_freeNames_iff_within.mpr within)
    | defined leads found within =>
      exact .onwards leads ⟨_, found, Expr.mem_freeNames_iff_within.mpr within⟩
  · intro leads
    cases leads with
    | occurs member => exact .within (Expr.mem_freeNames_iff_within.mp member)
    | onwards leads defines =>
      obtain ⟨bound, found, member⟩ := defines
      exact .defined leads found (Expr.mem_freeNames_iff_within.mp member)

theorem walk_of_within (within : f.Within e) : ReflTransGen (Mentions E) e f := by
  induction within with
  | self => exact .refl
  | inside member _ ih => exact ih.head (.argument member)

/-- Where the definition of one name mentions another, a walk leads from name to name. -/
theorem walk_of_defines (defines : Defines E name other) :
    TransGen (Mentions E) (.var name) (.var other) := by
  obtain ⟨bound, found, member⟩ := defines
  exact .head' (.link found) (walk_of_within (Expr.mem_freeNames_iff_within.mp member))

theorem LeadsTo.walk (leads : LeadsTo E e name) : ReflTransGen (Mentions E) e (.var name) := by
  induction leads with
  | occurs member => exact walk_of_within (Expr.mem_freeNames_iff_within.mp member)
  | onwards _ defines ih => exact ih.trans (walk_of_defines defines).to_reflTransGen

/-- What is met mentions only what is met as well. -/
theorem Meets.step (meets : Meets E e f) (mentions : Mentions E f g) : Meets E e g := by
  cases mentions with
  | link found => exact .defined (meets_var_iff.mp meets) found (.self _)
  | @argument name args _ member =>
    have below : g.Within (.operation name args) := .inside member (.self g)
    cases meets with
    | within within => exact .within (below.trans within)
    | defined leads found within => exact .defined leads found (below.trans within)

/-- The formulas met are those that walks come to. -/
theorem meets_iff_walk : Meets E e f ↔ ReflTransGen (Mentions E) e f := by
  constructor
  · intro meets
    cases meets with
    | within within => exact walk_of_within within
    | defined leads found within => exact (leads.walk.tail (.link found)).trans (walk_of_within within)
  · intro walk
    induction walk with
    | refl => exact .within (.self e)
    | tail _ mentions ih => exact ih.step mentions

theorem leadsTo_iff_walk : LeadsTo E e name ↔ ReflTransGen (Mentions E) e (.var name) :=
  meets_var_iff.symm.trans meets_iff_walk

/-- A formula lacks the names that it leads to and that stand for nothing. -/
theorem lacks_iff : Lacks E e name ↔ LeadsTo E e name ∧ E.find? name = none := by
  rw [leadsTo_iff_walk]
  constructor
  · intro lacks
    induction lacks with
    | here missing => exact ⟨.refl, missing⟩
    | link found _ ih => exact ⟨ih.1.head (.link found), ih.2⟩
    | argument member _ ih => exact ⟨ih.1.head (.argument member), ih.2⟩
  · rintro ⟨walk, missing⟩
    induction walk using ReflTransGen.head_induction_on with
    | refl => exact .here missing
    | head mentions _ ih =>
      cases mentions with
      | link found => exact .link found ih
      | argument member => exact .argument member ih

theorem transGen_of_isChain {R : String → String → Prop} {a b : String} {between : List String}
    (linked : (a :: (between ++ [b])).IsChain R) : TransGen R a b := by
  induction between generalizing a with
  | nil => exact .single (List.isChain_pair.mp linked)
  | cons next between ih =>
    obtain ⟨step, rest⟩ := List.isChain_cons_cons.mp linked
    exact .head step (ih rest)

/-- A formula leads to all names of a circle that it leads into. -/
theorem Circle.leadsTo (circle : Circle E e names) (member : name ∈ names) : LeadsTo E e name := by
  refine circle.linked.induction (LeadsTo E e) names (fun _ _ defines leads => .onwards leads defines)
    (fun nonempty => ?_) name member
  exact .occurs (circle.entered _ (List.head_mem_head? nonempty))

/-- From where a reported circle closes, names lead round. -/
theorem Circle.round (circle : Circle E e names) :
    ∃ name, LeadsTo E e name ∧ TransGen (Defines E) name name := by
  rcases List.eq_nil_or_concat names with rfl | ⟨front, last, rfl⟩
  · exact absurd circle.long (by decide)
  · have member : last ∈ front := by simpa using circle.closed
    have leads : LeadsTo E e last := circle.leadsTo (by simp)
    obtain ⟨before, between, rfl⟩ := List.append_of_mem member
    have linked := circle.linked
    rw [List.concat_eq_append, List.append_assoc] at linked
    exact ⟨last, leads, transGen_of_isChain linked.right_of_append⟩

theorem CircleFree.not_reports (clear : CircleFree E e) : ¬Reports E [] e names := by
  intro reports
  obtain ⟨name, leads, round⟩ := reports.circle.round
  exact clear name leads round

/-- Where the search for missing names comes to its end, every walk does. -/
theorem grounded_of_unboundNames {set : NameSet} (walked : E.unboundNames chain e = .ok set) :
    Grounded (Mentions E) e := by
  fun_induction unboundNames E chain e generalizing set with
  | case1 =>
    refine .of_steps fun f mentions => ?_
    cases mentions
  | case2 => cases walked
  | case3 chain name _ missing =>
    refine .of_steps fun f mentions => ?_
    cases mentions with
    | link found => cases missing.symm.trans found
  | case4 chain name _ bound found ih =>
    refine .of_steps fun f mentions => ?_
    cases mentions with
    | link other => exact Option.some.inj (found.symm.trans other) ▸ ih walked
  | case5 chain name args ih =>
    obtain ⟨sets, worked, _⟩ := bind_eq_ok_iff.mp walked
    refine .of_steps fun f mentions => ?_
    cases mentions with
    | argument member =>
      obtain ⟨set, _, walked⟩ := exists_of_mem_left (mapM_eq_ok_iff.mp worked) member
      exact ih f member walked

/-- Every walk from a formula ends exactly if the formula leads into no circle of definitions. -/
theorem circleFree_iff_grounded : CircleFree E e ↔ Grounded (Mentions E) e := by
  constructor
  · intro clear
    cases walked : E.unboundNames [] e with
    | ok set => exact grounded_of_unboundNames walked
    | error error =>
      obtain ⟨names, rfl⟩ := unboundNames_error walked
      exact absurd (reports_of_unboundNames walked) clear.not_reports
  · intro grounded name leads round
    have walkRound : TransGen (Mentions E) (.var name) (.var name) :=
      TransGen.lift' Expr.var (fun _ _ defines => walk_of_defines defines) _ _ round
    exact (grounded.walk leads.walk).not_round walkRound

end GraphCalc.Bindings

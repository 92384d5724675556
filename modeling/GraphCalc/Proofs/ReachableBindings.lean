import GraphCalc.Proofs.GuardedEvaluation
import GraphCalc.Proofs.Reachability

/-!
# Only reachable bindings count

A computation over bindings looks up the names that its formula leads to and no others. So bindings that agree on
these names may differ everywhere else: `same_outcome_of_agreement` says that evaluation, simplification, the test
for a number in disguise and the search for unbound names cannot tell them apart, in what they return or in what
they report.

Simplification is the one of the four that also works on formulas which it has made itself. It makes none that leads
elsewhere: `LeadsTo.of_simplify`.
-/

namespace GraphCalc.Bindings

open Results

variable {E E' : Bindings} {chain : List String} {e f r : Expr} {name : String} {args : List Expr}

/-- Two bindings give the same to every name that a formula leads to under the first of them. -/
def AgreeFrom (E E' : Bindings) (e : Expr) : Prop :=
  ∀ name, LeadsTo E e name → E.find? name = E'.find? name

theorem LeadsTo.of_mentions (mentions : Mentions E e f) (leads : LeadsTo E f name) : LeadsTo E e name :=
  leadsTo_iff_walk.mpr ((leadsTo_iff_walk.mp leads).head mentions)

theorem AgreeFrom.step (agree : AgreeFrom E E' e) (mentions : Mentions E e f) : AgreeFrom E E' f :=
  fun name leads => agree name (.of_mentions mentions leads)

theorem AgreeFrom.find?_eq (agree : AgreeFrom E E' (.var name)) : E.find? name = E'.find? name :=
  agree name (.occurs (by simp))

theorem AgreeFrom.resolve_eq (agree : AgreeFrom E E' (.var name)) :
    E.resolve name chain = E'.resolve name chain := by
  rw [resolve, resolve, agree.find?_eq]

theorem AgreeFrom.isCalculable_eq (agree : AgreeFrom E E' e) :
    E.isCalculable chain e = E'.isCalculable chain e := by
  fun_induction isCalculable E chain e with
  | case1 chain x => rw [isCalculable_number]
  | case2 chain name member => rw [isCalculable_var, if_pos member]
  | case3 chain name fresh missing => rw [isCalculable_var, if_neg fresh, ← agree.find?_eq, missing]
  | case4 chain name fresh bound found ih =>
    rw [isCalculable_var, if_neg fresh, ← agree.find?_eq, found]
    exact ih (agree.step (.link found))
  | case5 chain name args => rw [isCalculable_operation]

theorem AgreeFrom.unboundNames_eq (agree : AgreeFrom E E' e) :
    E.unboundNames chain e = E'.unboundNames chain e := by
  fun_induction unboundNames E chain e with
  | case1 chain x => rw [unboundNames_number]
  | case2 chain name member => rw [unboundNames_var, if_pos member]
  | case3 chain name fresh missing => rw [unboundNames_var, if_neg fresh, ← agree.find?_eq, missing]
  | case4 chain name fresh bound found ih =>
    rw [unboundNames_var, if_neg fresh, ← agree.find?_eq, found]
    exact ih (agree.step (.link found))
  | case5 chain name args ih =>
    have each : args.mapM (E.unboundNames chain) = args.mapM (E'.unboundNames chain) :=
      mapM_congr fun a member => ih a member (agree.step (.argument member))
    rw [each, unboundNames_operation]

section

variable [MathLibrary]

theorem AgreeFrom.toDouble_eq (agree : AgreeFrom E E' e) : E.toDouble chain e = E'.toDouble chain e := by
  fun_induction toDouble E chain e with
  | case1 chain x => rw [toDouble_number]
  | case2 chain name error link =>
    rw [toDouble_var, ← agree.resolve_eq, link]
    rfl
  | case3 chain name bound extended link ih =>
    obtain ⟨_, found, _⟩ := resolve_eq_ok_iff.mp link
    rw [toDouble_var, ← agree.resolve_eq, link]
    exact ih (agree.step (.link found))
  | case4 chain name args unnamed => rw [toDouble_unknown args unnamed]
  | case5 chain name args command known =>
    obtain rfl := Op.named?_eq_some_iff.mp known
    exact (toDouble_command command args).symm
  | case6 chain name op known a b left right =>
    obtain rfl := Op.named?_eq_some_iff.mp known
    rw [left (agree.step (.argument (by simp))), right (agree.step (.argument (by simp)))]
    exact (toDouble_binary E' chain op a b).symm
  | case7 chain name args op known wrong =>
    obtain rfl := Op.named?_eq_some_iff.mp known
    have arity : args.length ≠ (Op.binary op).arity := fun two => by
      obtain ⟨a, b, rfl⟩ := List.length_eq_two.mp two
      exact wrong a b rfl
    exact (toDouble_wrongArity rfl arity).symm
  | case8 chain name op known a operand =>
    obtain rfl := Op.named?_eq_some_iff.mp known
    rw [operand (agree.step (.argument (by simp)))]
    exact (toDouble_unary E' chain op a).symm
  | case9 chain name args op known wrong =>
    obtain rfl := Op.named?_eq_some_iff.mp known
    have arity : args.length ≠ (Op.unary op).arity := fun one => by
      obtain ⟨a, rfl⟩ := List.length_eq_one_iff.mp one
      exact wrong a rfl
    exact (toDouble_wrongArity rfl arity).symm

/-- What a simplified formula leads to, the formula leads to itself, whatever chain it is met on. -/
theorem LeadsTo.of_simplify (simplified : E.simplify chain e = .ok r) (leads : LeadsTo E r name) :
    LeadsTo E e name := by
  induction leads with
  | onwards _ defines ih => exact .onwards ih defines
  | @occurs name member =>
    fun_induction simplify E chain e generalizing r with
    | case1 chain x =>
      cases simplified
      exact absurd member (Expr.not_mem_freeNames_number x name)
    | case2 chain other _ =>
      cases simplified
      exact .occurs member
    | case3 => cases simplified
    | case4 chain other _ bound extended link ih =>
      obtain ⟨_, found, _⟩ := resolve_eq_ok_iff.mp link
      obtain ⟨calculable, _, rest⟩ := bind_eq_ok_iff.mp simplified
      cases calculable with
      | false => exact .of_mentions (.link found) (ih rest member)
      | true =>
        obtain ⟨x, _, none⟩ := bind_eq_ok_iff.mp rest
        cases none
        exact absurd member (Expr.not_mem_freeNames_number x name)
    | case5 chain f args ih =>
      obtain ⟨op, _, rest⟩ := bind_eq_ok_iff.mp simplified
      obtain ⟨others, worked, rest⟩ := bind_eq_ok_iff.mp rest
      obtain ⟨folded, _, rest⟩ := bind_eq_ok_iff.mp rest
      cases folded with
      | some x =>
        cases rest
        exact absurd member (Expr.not_mem_freeNames_number x name)
      | none =>
        cases rest
        obtain ⟨b, listed, occurs⟩ := Expr.mem_freeNames_operation.mp member
        obtain ⟨a, below, made⟩ := exists_of_mem_right (mapM_eq_ok_iff.mp worked) listed
        exact .of_mentions (.argument below) (ih a below made occurs)

theorem AgreeFrom.of_simplify (agree : AgreeFrom E E' e) (simplified : E.simplify chain e = .ok r) :
    AgreeFrom E E' r :=
  fun name leads => agree name (leads.of_simplify simplified)

theorem foldValue?_congr (agree : ∀ a ∈ args, AgreeFrom E E' a) (op : Op) :
    E.foldValue? chain op args = E'.foldValue? chain op args := by
  unfold foldValue? foldValueBy
  split
  · rename_i op a b
    have first := agree a (by simp)
    have second := agree b (by simp)
    rw [first.isCalculable_eq, first.toDouble_eq, second.isCalculable_eq, second.toDouble_eq]
  · rename_i op a
    have only := agree a (by simp)
    rw [only.isCalculable_eq, only.toDouble_eq]
  · rfl

theorem AgreeFrom.simplify_eq (agree : AgreeFrom E E' e) : E.simplify chain e = E'.simplify chain e := by
  fun_induction simplify E chain e with
  | case1 chain x => rw [simplify_number]
  | case2 chain name unbound => rw [simplify_var, ← agree.find?_eq, if_pos unbound]
  | case3 chain name bound error link =>
    rw [simplify_var, ← agree.find?_eq, if_neg bound, ← agree.resolve_eq, link]
    rfl
  | case4 chain name isBound bound extended link ih =>
    obtain ⟨_, found, _⟩ := resolve_eq_ok_iff.mp link
    have onwards : AgreeFrom E E' bound := agree.step (.link found)
    rw [simplify_var, ← agree.find?_eq, if_neg isBound, ← agree.resolve_eq, link, onwards.isCalculable_eq,
      onwards.toDouble_eq, ih onwards]
    rfl
  | case5 chain name args ih =>
    have each : args.mapM (E.simplify chain) = args.mapM (E'.simplify chain) :=
      mapM_congr fun a member => ih a member (agree.step (.argument member))
    rw [simplify_operation, ← each]
    cases worked : args.mapM (E.simplify chain) with
    | error error => rfl
    | ok simplified =>
      -- the folds work on simplified arguments, which lead nowhere else than the arguments
      have folds (op : Op) : E.foldValue? chain op simplified = E'.foldValue? chain op simplified := by
        refine foldValue?_congr (fun b listed => ?_) op
        obtain ⟨a, below, made⟩ := exists_of_mem_right (mapM_eq_ok_iff.mp worked) listed
        exact (agree.step (.argument below)).of_simplify made
      simp only [reduceOperation, bind, Except.bind, folds]

/-- Evaluation, simplification, the test for a number in disguise and the search for unbound names depend only on
the names that the formula leads to. Under bindings that agree on these, each comes to the same result, or to the
same error with the same names in it, whatever the chain on which it starts. -/
theorem same_outcome_of_agreement (agree : ∀ name, LeadsTo E e name → E.find? name = E'.find? name) :
    (∀ chain, E.toDouble chain e = E'.toDouble chain e) ∧
      (∀ chain, E.simplify chain e = E'.simplify chain e) ∧
      (∀ chain, E.isCalculable chain e = E'.isCalculable chain e) ∧
      ∀ chain, E.unboundNames chain e = E'.unboundNames chain e := by
  have agreeing : AgreeFrom E E' e := agree
  exact ⟨fun _ => agreeing.toDouble_eq, fun _ => agreeing.simplify_eq, fun _ => agreeing.isCalculable_eq,
    fun _ => agreeing.unboundNames_eq⟩

end

/-- The names `a` and `b` run in a circle. What `z` stands for, here itself and there a number, has no part in it. -/
theorem same_outcome_of_agreement_in_circle :
    let circle (z : Expr) : Bindings :=
      NameMap.ofList [("a", .operation UnaryOp.negate.name [.var "b"]), ("b", .var "a"), ("z", z)]
    let E := circle (.var "z")
    let E' := circle (.number 1)
    let report := CalcError.cyclicDefinition ["a", "b", "a"]
    (∀ name, LeadsTo E (.var "a") name → E.find? name = E'.find? name) ∧ E.find? "z" ≠ E'.find? "z" ∧
      (E.toDouble [] (.var "a") = .error report ∧ E'.toDouble [] (.var "a") = .error report) ∧
      (E.simplify [] (.var "a") = .error report ∧ E'.simplify [] (.var "a") = .error report) ∧
      (E.isCalculable [] (.var "a") = .ok false ∧ E'.isCalculable [] (.var "a") = .ok false) ∧
      E.unboundNames [] (.var "a") = .error report ∧ E'.unboundNames [] (.var "a") = .error report := by
  intro circle E E' report
  have aFound : E.find? "a" = some (.operation UnaryOp.negate.name [.var "b"]) := by decide
  have bFound : E.find? "b" = some (.var "a") := by decide
  have negation : Expr.checkArity UnaryOp.negate.name [.var "b"] = .ok (.unary .negate) := by decide
  have inside : ∀ name, LeadsTo E (.var "a") name → name = "a" ∨ name = "b" := by
    intro name leads
    induction leads with
    | occurs member => exact .inl (by simpa using member)
    | onwards _ defines ih =>
      obtain ⟨bound, found, member⟩ := defines
      rcases ih with rfl | rfl
      · cases aFound.symm.trans found
        exact .inr (by simpa [Expr.mem_freeNames_operation] using member)
      · cases bFound.symm.trans found
        exact .inl (by simpa using member)
  have agree : ∀ name, LeadsTo E (.var "a") name → E.find? name = E'.find? name := by
    intro name leads
    rcases inside name leads with rfl | rfl <;> decide
  have evaluated : E.toDouble [] (.var "a") = .error report := by
    simp [toDouble_var, toDouble_unary, resolve, aFound, bFound, report, bind, Except.bind]
  have simplified : E.simplify [] (.var "a") = .error report := by
    simp [simplify_var, reduceBound, simplify_operation, reduceOperation, isCalculable_var, resolve, negation, aFound,
      bFound, report, bind, Except.bind]
  have calculable : E.isCalculable [] (.var "a") = .ok false := by simp [isCalculable_var, aFound]
  have searched : E.unboundNames [] (.var "a") = .error report := by
    simp [unboundNames_var, unboundNames_operation, aFound, bFound, report, bind, Except.bind]
  obtain ⟨sameValue, sameForm, sameTest, sameSearch⟩ := same_outcome_of_agreement agree
  exact ⟨agree, by decide, ⟨evaluated, sameValue [] ▸ evaluated⟩, ⟨simplified, sameForm [] ▸ simplified⟩,
    ⟨calculable, sameTest [] ▸ calculable⟩, searched, sameSearch [] ▸ searched⟩

end GraphCalc.Bindings

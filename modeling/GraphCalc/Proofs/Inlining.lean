import GraphCalc.Proofs.IncrementalSimplification
import GraphCalc.Proofs.SimplificationDomain
import Mathlib.Logic.Function.Iterate

/-!
# Simplification by inlining

Where no circle is in the way, bindings can be dispensed with: put for each bound name what it stands for, again and
again until no bound name is left, and simplify the outcome without any bindings. `simplify_eq_simplify_inlined`
says that this is what simplification under bindings comes to, though it never builds the larger formula, looks
ahead along names, and goes through a name each time that it is met.

A round of substitution leaves the reduction of a formula as it is, and so does any number of rounds. As many are
enough as there are bindings, and once no name is bound the bindings play no part any more.
-/

namespace GraphCalc.Bindings

open Results

variable {E : Bindings} {chain : List String} {e : Expr} {name : String} {args : List Expr}

/-- A formula with each bound name replaced by what it stands for, once. -/
def substitute (E : Bindings) : Expr → Expr
  | .number x => .number x
  | .var name => (E.find? name).getD (.var name)
  | .operation name args => .operation name (args.map (substitute E))

/-- A formula with bound names replaced as many times over as there are bindings. -/
def inlined (E : Bindings) (e : Expr) : Expr := E.substitute^[E.names.length] e

@[simp] theorem substitute_number (E : Bindings) (x : Float) :
    E.substitute (.number x) = .number x := by
  rw [substitute]

theorem substitute_var_of_missing (missing : E.find? name = none) :
    E.substitute (.var name) = .var name := by
  rw [substitute, missing, Option.getD_none]

theorem substitute_var_of_found {bound : Expr} (found : E.find? name = some bound) :
    E.substitute (.var name) = bound := by
  rw [substitute, found, Option.getD_some]

theorem substitute_operation (E : Bindings) (name : String) (args : List Expr) :
    E.substitute (.operation name args) = .operation name (args.map E.substitute) := by
  rw [substitute]

theorem iterate_substitute_operation (E : Bindings) (name : String) (args : List Expr) (count : Nat) :
    E.substitute^[count] (.operation name args) = .operation name (args.map E.substitute^[count]) := by
  induction count generalizing args with
  | zero => simp
  | succ count ih =>
    rw [Function.iterate_succ_apply, substitute_operation, ih, List.map_map, Function.iterate_succ]

/-- Each round that goes through a name puts it on a chain, so as many rounds do as there are bound names off the
chain. -/
theorem settled_iterate_substitute (grounded : Grounded (Mentions E) e)
    (clear : ¬Returns (Mentions E) chain e) {count : Nat} (enough : E.unvisited chain ≤ count) :
    Settled E (E.substitute^[count] e) := by
  induction grounded generalizing chain count with
  | intro e _ ih =>
    cases e with
    | number x =>
      rw [Function.iterate_fixed (substitute_number E x)]
      exact settled_number x
    | var name =>
      cases found : E.find? name with
      | none =>
        rw [Function.iterate_fixed (substitute_var_of_missing found)]
        exact settled_var_iff.mpr found
      | some bound =>
        obtain ⟨fresh, onwards⟩ := Returns.not_link (.link found) clear
        have fewer : E.unvisited (chain ++ [name]) < E.unvisited chain := unvisited_append_lt found fresh
        obtain ⟨rest, rfl⟩ : ∃ rest, count = rest + 1 := ⟨count - 1, by omega⟩
        rw [Function.iterate_succ_apply, substitute_var_of_found found]
        exact ih bound (.link found) onwards (by omega)
    | operation name args =>
      rw [iterate_substitute_operation, settled_operation_iff]
      intro a listed
      obtain ⟨b, member, rfl⟩ := List.mem_map.mp listed
      exact ih b (.argument member) (fun returns => clear (.step (.argument member) returns)) enough

theorem settled_inlined (clear : CircleFree E e) : Settled E (E.inlined e) := by
  have grounded : Grounded (Mentions E) e := circleFree_iff_grounded.mp clear
  have enough : E.unvisited [] ≤ E.names.length := List.length_filter_le _ _
  exact settled_iterate_substitute grounded grounded.not_returns enough

section

variable [MathLibrary]

/-- What goes along with the rules of reduction goes along with a round of substitution. -/
theorem Congruence.substitute {R : Expr → Expr → Prop} (congruence : Congruence E R) (e : Expr) :
    R e (E.substitute e) := by
  induction e using Expr.argumentInduction with
  | number x =>
    rw [substitute_number]
    exact congruence.refl _
  | var name =>
    cases found : E.find? name with
    | none =>
      rw [substitute_var_of_missing found]
      exact congruence.refl _
    | some bound =>
      rw [substitute_var_of_found found]
      exact congruence.link found
  | operation name args ih =>
    rw [substitute_operation]
    exact congruence.operation (List.forall₂_map_right_iff.mpr (List.forall₂_same.mpr ih))

theorem Congruence.iterate_substitute {R : Expr → Expr → Prop} (congruence : Congruence E R) (e : Expr)
    (count : Nat) : R e (E.substitute^[count] e) := by
  induction count generalizing e with
  | zero => exact congruence.refl e
  | succ count ih =>
    rw [Function.iterate_succ_apply]
    exact congruence.trans (congruence.substitute e) (ih _)

/-- Where no name is bound, bindings make no difference. -/
theorem Settled.simplify_eq (settled : Settled E e) : E.simplify [] e = simplify ∅ [] e := by
  induction e using Expr.argumentInduction with
  | number x => rw [simplify_number, simplify_number]
  | var name => simp [simplify_var, settled_var_iff.mp settled]
  | operation name args ih =>
    have each : ∀ a ∈ args, E.simplify [] a = simplify ∅ [] a := fun a member =>
      ih a member (settled_operation_iff.mp settled a member)
    cases checked : Expr.checkArity name args with
    | error error => rw [simplify_of_refused checked, simplify_of_refused checked]
    | ok op =>
      obtain ⟨rfl, arity⟩ := Expr.checkArity_eq_ok_iff.mp checked
      rw [simplify_of_arity arity .nil, simplify_of_arity arity .nil, mapM_congr each]

theorem CircleFree.simplify_ne (clear : CircleFree E e) (names : List String) :
    E.simplify [] e ≠ .error (.cyclicDefinition names) :=
  fun failed => clear.not_reports (reports_of_simplify .nil failed)

/-- In a formula that leads into no circle of definitions, inlining replaces all bound names, and simplification
under the bindings is simplification of the inlined formula without any: the same formula, node for node and bit for
bit, or the same error, which is about an operation that is unknown or has the wrong number of arguments. -/
theorem simplify_eq_simplify_inlined (clear : CircleFree E e) :
    Settled E (E.inlined e) ∧ E.simplify [] e = simplify ∅ [] (E.inlined e) ∧
      ∀ error, E.simplify [] e = .error error → Refused E e error := by
  have settled : Settled E (E.inlined e) := settled_inlined clear
  have same : SameReduction E e (E.inlined e) := (SameReduction.congruence E).iterate_substitute e _
  refine ⟨settled, ?_, fun error failed => ?_⟩
  · calc E.simplify [] e
      _ = E.simplify [] (E.inlined e) := same.sameOutcome.eq clear.simplify_ne
      _ = simplify ∅ [] (E.inlined e) := settled.simplify_eq
  · rcases refused_or_circle_of_simplify failed with refused | ⟨names, rfl, _⟩
    · exact refused
    · exact absurd failed (clear.simplify_ne names)

end

/-- Two names stand behind one another, the inner one is used twice. The sum is simplified; the formula with an
operation that nobody knows is refused, whether it is inlined before or not. -/
theorem simplify_eq_simplify_inlined_behind_names :
    let product : Expr := .operation BinaryOp.mul.name [.var "c", .number 2]
    let E : Bindings :=
      NameMap.ofList [("a", .operation BinaryOp.add.name [.var "b", .var "b"]), ("b", product)]
    let sum : Expr := .operation BinaryOp.add.name [product, product]
    let unknown : Expr := .operation "max" [.var "a"]
    CircleFree E (.var "a") ∧ CircleFree E unknown ∧
      E.inlined (.var "a") = sum ∧ E.inlined unknown = .operation "max" [sum] ∧
      E.simplify [] (.var "a") = .ok sum ∧ simplify ∅ [] sum = .ok sum ∧
      E.simplify [] unknown = .error (.unknownOperation "max" none) ∧
      simplify ∅ [] (.operation "max" [sum]) = .error (.unknownOperation "max" none) ∧
      Refused E unknown (.unknownOperation "max" none) := by
  intro product E sum unknown
  have aFound : E.find? "a" = some (.operation BinaryOp.add.name [.var "b", .var "b"]) := by decide
  have bFound : E.find? "b" = some product := by decide
  have cMissing : E.find? "c" = none := by decide
  have reduces : Reduces E (.var "a") sum := by
    have inner : Reduces E (.var "b") product :=
      .link bFound (.of_pairs (.binary .mul) rfl (.cons (.unbound cMissing) (.cons (.number 2) .nil)))
    exact .link aFound (.of_pairs (.binary .add) rfl (.cons inner (.cons inner .nil)))
  have clear : CircleFree E (.var "a") := circleFree_iff_grounded.mpr reduces.grounded
  have clearUnknown : CircleFree E (.operation "max" [.var "a"]) := by
    refine circleFree_iff_grounded.mpr (.of_steps fun f mentions => ?_)
    cases mentions with
    | argument member =>
      obtain rfl := List.mem_singleton.mp member
      exact reduces.grounded
  have two : E.names.length = 2 := by decide
  have inlinedName : E.inlined (.var "a") = sum := by
    simp [inlined, two, substitute_var_of_found aFound, substitute_operation,
      substitute_var_of_found bFound, sum]
  have inlinedUnknown : E.inlined unknown = .operation "max" [sum] := by
    rw [← inlinedName, inlined, iterate_substitute_operation]
    rfl
  have simplified : E.simplify [] (.var "a") = .ok sum := simplify_eq_ok_iff_reduces.mpr reduces
  have refused : E.simplify [] unknown = .error (.unknownOperation "max" none) :=
    simplify_of_refused (by decide)
  obtain ⟨_, same, _⟩ := simplify_eq_simplify_inlined clear
  obtain ⟨_, sameError, fault⟩ := simplify_eq_simplify_inlined clearUnknown
  rw [inlinedName] at same
  rw [inlinedUnknown] at sameError
  exact ⟨clear, clearUnknown, inlinedName, inlinedUnknown, simplified, same.symm.trans simplified, refused,
    sameError.symm.trans refused, fault _ refused⟩

end GraphCalc.Bindings

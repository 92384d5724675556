import GraphCalc.Proofs.NormalForms
import GraphCalc.Proofs.Obstructions
import GraphCalc.Proofs.PartialEvaluation

/-!
# Incremental simplification

Simplifying early, and again after more names are bound, gives what simplifying once at the end gives.
`simplify_incremental` compares the two outcomes for any bindings that keep the earlier ones. Names that
are bound in between may unblock operations that could not fold before, bring unknown operations with
them, or close a circle through names that the first pass has replaced.

Nothing like it holds when a name is bound anew or unbound: the first pass has used its old definition.
-/

namespace GraphCalc.Bindings

open Results

variable {E E' : Bindings} {e f g r : Expr} {x : Float} {error : CalcError} {name : String}
  {args others : List Expr}

section

variable [MathLibrary]

/-- Formulas with the same reduced form and the same obstruction, as far as the rules give any. -/
structure SameReduction (E : Bindings) (e f : Expr) : Prop where
  reduces : ∀ r, Reduces E e r ↔ Reduces E f r
  obstructed : ∀ error, Obstructed E e error ↔ Obstructed E f error

theorem SameReduction.refl (E : Bindings) (e : Expr) : SameReduction E e e :=
  ⟨fun _ => Iff.rfl, fun _ => Iff.rfl⟩

theorem SameReduction.symm (same : SameReduction E e f) : SameReduction E f e :=
  ⟨fun r => (same.reduces r).symm, fun error => (same.obstructed error).symm⟩

theorem SameReduction.trans (first : SameReduction E e f) (second : SameReduction E f g) :
    SameReduction E e g :=
  ⟨fun r => (first.reduces r).trans (second.reduces r),
    fun error => (first.obstructed error).trans (second.obstructed error)⟩

/-- A bound name reduces like its definition. -/
theorem SameReduction.link {bound : Expr} (found : E.find? name = some bound) :
    SameReduction E (.var name) bound := by
  refine ⟨fun r => ⟨fun reduces => ?_, .link found⟩,
    fun error => ⟨fun obstructed => ?_, .link found⟩⟩
  · cases reduces with
    | unbound missing => cases found.symm.trans missing
    | link other reduced =>
      cases found.symm.trans other
      exact reduced
  · cases obstructed with
    | link other obstructed =>
      cases found.symm.trans other
      exact obstructed

theorem Reduces.unique {q : Expr} (reduces : Reduces E e r) (other : Reduces E e q) : r = q :=
  Except.ok.inj ((simplify_eq_ok_iff_reduces.mpr reduces).symm.trans
    (simplify_eq_ok_iff_reduces.mpr other))

/-- Under the same bindings, a reduced form reduces like the formula. -/
theorem Reduces.sameReduction_self (reduces : Reduces E e r) : SameReduction E e r := by
  have again : Reduces E r r := reduces.normal.reduces
  refine ⟨fun q => ⟨fun other => ?_, fun other => ?_⟩,
    fun error => ⟨fun fault => ?_, fun fault => ?_⟩⟩
  · exact reduces.unique other ▸ again
  · exact again.unique other ▸ reduces
  · exact absurd ⟨r, reduces⟩ fault.not_reducible
  · exact absurd ⟨r, again⟩ fault.not_reducible

theorem Reduces.replace (pairs : List.Forall₂ (SameReduction E) args others)
    (reduces : Reduces E (.operation name args) r) : Reduces E (.operation name others) r := by
  obtain ⟨op, rfl, _⟩ := reduces.sound
  obtain ⟨arity, reduced, each, rfl⟩ := reduces_operation_iff.mp reduces
  refine reduces_operation_iff.mpr ⟨pairs.length_eq ▸ arity, reduced, ?_, rfl⟩
  exact forall₂_join (fun _ _ _ same reduces => (same.reduces _).mp reduces) pairs each

theorem Obstructed.replace (pairs : List.Forall₂ (SameReduction E) args others)
    (obstructed : Obstructed E (.operation name args) error) :
    Obstructed E (.operation name others) error := by
  cases obstructed with
  | unknown unnamed => exact .unknown unnamed
  | arity op wrong =>
    rw [pairs.length_eq] at wrong ⊢
    exact .arity op wrong
  | argument op arity earlier obstructed =>
    rw [pairs.length_eq] at arity
    obtain ⟨before, a, after, rfl, front, here, _⟩ := forall₂_of_split pairs
    refine .argument op arity (fun b member => ?_) ((here.obstructed _).mp obstructed)
    obtain ⟨c, listed, same⟩ := exists_of_mem_right front member
    exact (earlier c listed).imp fun r => (same.reduces r).mp

/-- An operation on arguments that reduce alike reduces alike. -/
theorem SameReduction.operation (pairs : List.Forall₂ (SameReduction E) args others) :
    SameReduction E (.operation name args) (.operation name others) := by
  have back : List.Forall₂ (SameReduction E) others args :=
    (pairs.imp fun _ _ same => same.symm).flip
  exact ⟨fun _ => ⟨Reduces.replace pairs, Reduces.replace back⟩,
    fun _ => ⟨Obstructed.replace pairs, Obstructed.replace back⟩⟩

theorem reduces_of_constant {op : Op} (constant : op.constant? args = some x) :
    Reduces E (.operation op.name args) (.number x) := by
  rw [← Op.reduce_of_constant constant]
  unfold Op.constant? at constant
  split at constant
  · rename_i op a b
    exact .of_pairs (.binary op) rfl (.cons (.number a) (.cons (.number b) .nil))
  · rename_i op a
    exact .of_pairs (.unary op) rfl (.cons (.number a) .nil)
  · cases constant

/-- To fold first changes nothing about the reduction that follows. -/
theorem SameReduction.reduce (E : Bindings) (op : Op) (args : List Expr) :
    SameReduction E (.operation op.name args) (op.reduce args) := by
  cases constant : op.constant? args with
  | some x =>
    rw [Op.reduce_of_constant constant]
    exact (reduces_of_constant constant).sameReduction_self
  | none =>
    rw [Op.reduce_of_not_constant constant]
    exact .refl E _

theorem SameReduction.congruence (E : Bindings) : Congruence E (SameReduction E) where
  refl := .refl E
  trans := .trans
  link := .link
  operation := .operation
  reduce := .reduce E

/-- A reduced form reduces like the formula under all bindings that extend those of the reduction. -/
theorem Reduces.sameReduction (reduces : Reduces E e r) (larger : Extends E' E) :
    SameReduction E' e r :=
  (SameReduction.congruence E').of_reduces larger reduces

/-- Formulas that reduce alike are simplified alike. -/
theorem SameReduction.sameOutcome (same : SameReduction E e f) :
    SameOutcome (E.simplify [] e) (E.simplify [] f) := by
  refine .of_iff (fun r => ?_) fun error noCircle => ?_
  · rw [simplify_eq_ok_iff_reduces, simplify_eq_ok_iff_reduces]
    exact same.reduces r
  · rw [simplify_eq_error_iff_obstructed noCircle, simplify_eq_error_iff_obstructed noCircle]
    exact same.obstructed error

/-- Simplification is incremental: once a formula is simplified, simplifying the result under bindings
that keep the ones at hand and may bind further names has the outcome of simplifying the formula itself
under them, node for node and bit for bit, or the same error. Two reports of circles may list different
names. -/
theorem simplify_incremental (larger : Extends E' E) (early : E.simplify [] e = .ok r) :
    SameOutcome (E'.simplify [] r) (E'.simplify [] e) :=
  ((simplify_eq_ok_iff_reduces.mp early).sameReduction larger).symm.sameOutcome

end

/-- A product waits for the name `b` inside a sum that stands outside its definition. Once `b` is a number,
both fold; where `b` is bound to `a`, a circle closes through the name that the first pass has replaced. -/
theorem simplify_incremental_where_bindings_arrive :
    let doubled : Expr := .operation BinaryOp.mul.name [.var "b", .number 2]
    let early : Expr := .operation BinaryOp.add.name [doubled, .number 3]
    let late : Expr := .operation BinaryOp.add.name [.var "a", .number 3]
    let today : Bindings := NameMap.insert ∅ "a" doubled
    let number : Bindings := today.insert "b" (.number 4)
    let circle : Bindings := today.insert "b" (.var "a")
    today.simplify [] late = .ok early ∧ Extends number today ∧ Extends circle today ∧
      number.simplify [] late = .ok (.number (4 * 2 + 3)) ∧
      circle.simplify [] early = .error (.cyclicDefinition ["b", "a", "b"]) ∧
      circle.simplify [] late = .error (.cyclicDefinition ["a", "b", "a"]) ∧
      SameOutcome (number.simplify [] early) (number.simplify [] late) ∧
      SameOutcome (circle.simplify [] early) (circle.simplify [] late) := by
  intro doubled early late today number circle
  have toNumber : Extends number today := extends_insert (by decide) _
  have toCircle : Extends circle today := extends_insert (by decide) _
  have simplified : today.simplify [] late = .ok early := by
    have product : Reduces today doubled doubled :=
      .of_pairs (.binary .mul) rfl (.cons (.unbound (by decide)) (.cons (.number 2) .nil))
    have sum : Reduces today late early :=
      .of_pairs (.binary .add) rfl (.cons (.link (by decide) product) (.cons (.number 3) .nil))
    exact simplify_eq_ok_iff_reduces.mpr sum
  have folded : number.simplify [] late = .ok (.number (4 * 2 + 3)) := by
    have product : Reduces number doubled (.number (4 * 2)) :=
      .of_pairs (.binary .mul) rfl
        (.cons (.link (by decide) (.number 4)) (.cons (.number 2) .nil))
    have sum : Reduces number late (.number (4 * 2 + 3)) :=
      .of_pairs (.binary .add) rfl (.cons (.link (by decide) product) (.cons (.number 3) .nil))
    exact simplify_eq_ok_iff_reduces.mpr sum
  have aFound : circle.find? "a" = some doubled := by decide
  have bFound : circle.find? "b" = some (.var "a") := by decide
  have sound (op : BinaryOp) (a b : Expr) :
      Expr.checkArity op.name [a, b] = .ok (.binary op) :=
    Expr.checkArity_eq_ok_iff.mpr ⟨rfl, rfl⟩
  have fromEarly : circle.simplify [] early = .error (.cyclicDefinition ["b", "a", "b"]) := by
    simp [early, doubled, simplify_operation, reduceOperation, simplify_var, reduceBound, sound, resolve, aFound,
      bFound, isCalculable_var, bind, Except.bind]
  have fromLate : circle.simplify [] late = .error (.cyclicDefinition ["a", "b", "a"]) := by
    simp [late, doubled, simplify_operation, reduceOperation, simplify_var, reduceBound, sound, resolve, aFound,
      bFound, isCalculable_var, bind, Except.bind]
  exact ⟨simplified, toNumber, toCircle, folded, fromEarly, fromLate,
    simplify_incremental toNumber simplified, simplify_incremental toCircle simplified⟩

end GraphCalc.Bindings

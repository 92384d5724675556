import GraphCalc.Proofs.GuardedEvaluation
import GraphCalc.Proofs.GuardedSimplification

/-!
# Simplification as partial evaluation

Simplifying under the bindings of today does not spoil what a formula is worth tomorrow, when more names
are bound. `simplify_sound_in_extensions` compares the outcomes of evaluating a formula and its
simplified form under any bindings that keep the ones it was simplified under. Names bound later may be
undefined, take unknown operations with them, or close circles; the two outcomes still agree, only the
names that a report of a circle lists depend on where the circle is entered.

Any relation that the rules of reduction go along with holds between a formula and its reduced form, by
`Congruence.of_reduces`. To have the same meaning is such a relation.

Arithmetic plays no part: operations are functions of their arguments, and nothing else is used.
-/

namespace GraphCalc.Bindings

open Results

/-- Bindings that keep all of others and may bind further names. -/
def Extends (E' E : Bindings) : Prop :=
  ∀ name bound, E.find? name = some bound → E'.find? name = some bound

theorem extends_insert {E : Bindings} {name : String} (missing : E.find? name = none) (e : Expr) :
    Extends (E.insert name e) E := by
  intro other bound found
  have different : other ≠ name := by
    rintro rfl
    cases missing.symm.trans found
  rw [NameMap.find?_insert, if_neg different, found]

/-- Outcomes are equal, double for double and error for error; two reports of circles may list
different names. -/
def SameOutcome {α : Type} : Except CalcError α → Except CalcError α → Prop
  | .error (.cyclicDefinition _), .error (.cyclicDefinition _) => True
  | result, other => result = other

theorem SameOutcome.refl {α : Type} (result : Except CalcError α) : SameOutcome result result := by
  unfold SameOutcome
  split <;> trivial

theorem SameOutcome.eq {α : Type} {result other : Except CalcError α} (same : SameOutcome result other)
    (noCircle : ∀ names, result ≠ .error (.cyclicDefinition names)) : result = other := by
  unfold SameOutcome at same
  split at same
  · exact absurd rfl (noCircle _)
  · exact same

/-- Computations with the same results and the same errors, circles apart, have the same outcome: where
neither has a result or another error, both report a circle. -/
theorem SameOutcome.of_iff {α : Type} {result other : Except CalcError α}
    (results : ∀ a, result = .ok a ↔ other = .ok a)
    (errors : ∀ error, (∀ names, error ≠ .cyclicDefinition names) →
      (result = .error error ↔ other = .error error)) : SameOutcome result other := by
  have circle {error : CalcError} (none : ¬∀ names, error ≠ .cyclicDefinition names) :
      ∃ names, error = .cyclicDefinition names := by simpa using none
  cases result with
  | ok a =>
    rw [(results a).mp rfl]
    exact .refl _
  | error error =>
    by_cases noCircle : ∀ names, error ≠ .cyclicDefinition names
    · rw [(errors error noCircle).mp rfl]
      exact .refl _
    · obtain ⟨names, rfl⟩ := circle noCircle
      cases other with
      | ok a => cases (results a).mpr rfl
      | error error =>
        by_cases noCircle : ∀ names, error ≠ .cyclicDefinition names
        · cases (errors error noCircle).mpr rfl
          exact .refl _
        · obtain ⟨others, rfl⟩ := circle noCircle
          trivial

section

variable [MathLibrary] {E E' : Bindings} {e f g r : Expr} {x : Float} {error : CalcError} {name : String}
  {args others : List Expr}

/-- Formulas with the same value and the same faults, as far as the rules give any. -/
structure SameMeaning (E : Bindings) (e f : Expr) : Prop where
  evaluates : ∀ x, Evaluates E e x ↔ Evaluates E f x
  fails : ∀ error, Fails E e error ↔ Fails E f error

/-- A relation between formulas that every rule of reduction goes along with. -/
structure Congruence (E : Bindings) (R : Expr → Expr → Prop) : Prop where
  refl : ∀ e, R e e
  trans : ∀ {e f g}, R e f → R f g → R e g
  link : ∀ {name bound}, E.find? name = some bound → R (.var name) bound
  operation : ∀ {name args others}, List.Forall₂ R args others →
    R (.operation name args) (.operation name others)
  reduce : ∀ (op : Op) (args : List Expr), R (.operation op.name args) (op.reduce args)

/-- A reduced form is congruent to the formula, also under bindings that extend those of the reduction. -/
theorem Congruence.of_reduces {R : Expr → Expr → Prop} (congruence : Congruence E' R)
    (larger : Extends E' E) (reduces : Reduces E e r) : R e r := by
  induction reduces with
  | number | unbound => exact congruence.refl _
  | link found _ ih => exact congruence.trans (congruence.link (larger _ _ found)) ih
  | operation op _ paired _ ih =>
    exact congruence.trans (congruence.operation (forall₂_of_zip paired ih)) (congruence.reduce op _)

theorem SameMeaning.refl (E : Bindings) (e : Expr) : SameMeaning E e e :=
  ⟨fun _ => Iff.rfl, fun _ => Iff.rfl⟩

theorem SameMeaning.symm (same : SameMeaning E e f) : SameMeaning E f e :=
  ⟨fun x => (same.evaluates x).symm, fun error => (same.fails error).symm⟩

theorem SameMeaning.trans (first : SameMeaning E e f) (second : SameMeaning E f g) :
    SameMeaning E e g :=
  ⟨fun x => (first.evaluates x).trans (second.evaluates x),
    fun error => (first.fails error).trans (second.fails error)⟩

/-- A name means what its definition means. -/
theorem SameMeaning.link {bound : Expr} (found : E.find? name = some bound) :
    SameMeaning E (.var name) bound := by
  refine ⟨fun x => ⟨fun value => ?_, .link found⟩, fun error => ⟨fun fault => ?_, .link found⟩⟩
  · cases value with
    | link other value =>
      cases found.symm.trans other
      exact value
  · cases fault with
    | unbound missing => cases found.symm.trans missing
    | link other fault =>
      cases found.symm.trans other
      exact fault

/-- A formula with a value means that value. -/
theorem Evaluates.sameMeaning (value : Evaluates E e x) : SameMeaning E e (.number x) := by
  refine ⟨fun y => ⟨fun other => ?_, fun other => ?_⟩, fun error => ⟨fun fault => ?_, nofun⟩⟩
  · exact value.unique other ▸ .number x
  · cases other
    exact value
  · exact absurd fault value.not_fails

theorem Evaluates.replace (pairs : List.Forall₂ (SameMeaning E) args others)
    (value : Evaluates E (.operation name args) x) : Evaluates E (.operation name others) x := by
  cases value with
  | binary op left right =>
    obtain _ | ⟨first, _ | ⟨second, ⟨⟩⟩⟩ := pairs
    exact .binary op ((first.evaluates _).mp left) ((second.evaluates _).mp right)
  | unary op operand =>
    obtain _ | ⟨only, ⟨⟩⟩ := pairs
    exact .unary op ((only.evaluates _).mp operand)

theorem Fails.replace (pairs : List.Forall₂ (SameMeaning E) args others)
    (fault : Fails E (.operation name args) error) : Fails E (.operation name others) error := by
  cases fault with
  | unknown unnamed => exact .unknown unnamed
  | command command => exact .command command
  | arity op evaluable wrong =>
    rw [pairs.length_eq] at wrong ⊢
    exact .arity op evaluable wrong
  | left op fault =>
    obtain _ | ⟨first, _ | ⟨_, ⟨⟩⟩⟩ := pairs
    exact .left op ((first.fails _).mp fault)
  | right op value fault =>
    obtain _ | ⟨first, _ | ⟨second, ⟨⟩⟩⟩ := pairs
    exact .right op ((first.evaluates _).mp value) ((second.fails _).mp fault)
  | operand op fault =>
    obtain _ | ⟨only, ⟨⟩⟩ := pairs
    exact .operand op ((only.fails _).mp fault)

/-- An operation on arguments of the same meaning has the same meaning. -/
theorem SameMeaning.operation (pairs : List.Forall₂ (SameMeaning E) args others) :
    SameMeaning E (.operation name args) (.operation name others) := by
  have back : List.Forall₂ (SameMeaning E) others args :=
    (pairs.imp fun _ _ same => same.symm).flip
  exact ⟨fun _ => ⟨Evaluates.replace pairs, Evaluates.replace back⟩,
    fun _ => ⟨Fails.replace pairs, Fails.replace back⟩⟩

theorem evaluates_of_constant {op : Op} (constant : op.constant? args = some x) :
    Evaluates E (.operation op.name args) x := by
  unfold Op.constant? at constant
  split at constant
  · rename_i op a b
    split at constant <;> cases constant
    exact .binary op (.number a) (.number b)
  · rename_i op a
    split at constant <;> cases constant
    exact .unary op (.number a)
  · cases constant

theorem SameMeaning.reduce (E : Bindings) (op : Op) (args : List Expr) :
    SameMeaning E (.operation op.name args) (op.reduce args) := by
  cases constant : op.constant? args with
  | some x =>
    rw [Op.reduce_of_constant constant]
    exact (evaluates_of_constant constant).sameMeaning
  | none =>
    rw [Op.reduce_of_not_constant constant]
    exact .refl E _

theorem SameMeaning.congruence (E : Bindings) : Congruence E (SameMeaning E) where
  refl := .refl E
  trans := .trans
  link := .link
  operation := .operation
  reduce := .reduce E

/-- A reduced form means the same as the formula under all bindings that extend those of the
reduction. -/
theorem Reduces.sameMeaning (reduces : Reduces E e r) (larger : Extends E' E) : SameMeaning E' e r :=
  (SameMeaning.congruence E').of_reduces larger reduces

/-- What has a value under larger bindings has a reduced form under smaller ones. -/
theorem Evaluates.exists_reduces (value : Evaluates E' e x) (larger : Extends E' E) :
    ∃ r, Reduces E e r := by
  induction value with
  | number x => exact ⟨_, .number x⟩
  | @link name bound x found' _ ih =>
    cases found : E.find? name with
    | none => exact ⟨_, .unbound found⟩
    | some other =>
      obtain rfl : other = bound := Option.some.inj ((larger _ _ found).symm.trans found')
      obtain ⟨r, reduces⟩ := ih
      exact ⟨r, .link found reduces⟩
  | binary op _ _ leftIH rightIH =>
    obtain ⟨r, first⟩ := leftIH
    obtain ⟨q, second⟩ := rightIH
    exact ⟨_, .of_pairs (.binary op) rfl (.cons first (.cons second .nil))⟩
  | unary op _ ih =>
    obtain ⟨r, only⟩ := ih
    exact ⟨_, .of_pairs (.unary op) rfl (.cons only .nil)⟩

/-- Formulas of the same meaning are evaluated alike. -/
theorem SameMeaning.sameOutcome (same : SameMeaning E e f) :
    SameOutcome (E.toDouble [] e) (E.toDouble [] f) := by
  refine .of_iff (fun x => ?_) fun error noCircle => ?_
  · have here (g : Expr) : E.toDouble [] g = .ok x ↔ Evaluates E g x :=
      ⟨evaluates_of_toDouble, Evaluates.toDouble_nil⟩
    rw [here, here]
    exact same.evaluates x
  · rw [toDouble_eq_error_iff_fails noCircle, toDouble_eq_error_iff_fails noCircle]
    exact same.fails error

/-- Simplification is a partial evaluation that every later extension of the bindings agrees with: it
succeeds wherever the formula has a value, and the simplified formula is evaluated like the formula
itself, to the same double or to the same error. -/
theorem simplify_sound_in_extensions (E E' : Bindings) (e : Expr) (larger : Extends E' E) :
    (∀ x, E'.toDouble [] e = .ok x → ∃ r, E.simplify [] e = .ok r) ∧
      ∀ r, E.simplify [] e = .ok r → SameOutcome (E'.toDouble [] r) (E'.toDouble [] e) := by
  constructor
  · intro x result
    obtain ⟨r, reduces⟩ := (evaluates_of_toDouble result).exists_reduces larger
    exact ⟨r, simplify_eq_ok_iff_reduces.mpr reduces⟩
  · intro r result
    exact ((simplify_eq_ok_iff_reduces.mp result).sameMeaning larger).symm.sameOutcome

end

/-- A name bound later closes a circle through a name that the simplification has already replaced. Both
formulas are then reported as circular, by the names that each of them is entered at. -/
theorem simplify_sound_where_circle_closes :
    let square : Expr := .operation BinaryOp.mul.name [.var "b", .var "b"]
    let today : Bindings := NameMap.insert ∅ "a" square
    let later : Bindings := today.insert "b" (.var "a")
    Extends later today ∧ today.simplify [] (.var "a") = .ok square ∧
      later.toDouble [] (.var "a") = .error (.cyclicDefinition ["a", "b", "a"]) ∧
      later.toDouble [] square = .error (.cyclicDefinition ["b", "a", "b"]) ∧
      SameOutcome (later.toDouble [] square) (later.toDouble [] (.var "a")) := by
  intro square today later
  have larger : Extends later today := by
    intro name bound found
    rw [NameMap.find?_insert, if_neg, found]
    rintro rfl
    simp [today, NameMap.find?_insert] at found
  have simplified : today.simplify [] (.var "a") = .ok square := by
    have argument : Reduces today (.var "b") (.var "b") := .unbound (by decide)
    have reduced : Reduces today square square :=
      .of_pairs (.binary .mul) rfl (.cons argument (.cons argument .nil))
    exact simplify_eq_ok_iff_reduces.mpr (.link (by decide) reduced)
  have aFound : later.find? "a" = some square := by decide
  have bFound : later.find? "b" = some (.var "a") := by decide
  have fromName : later.toDouble [] (.var "a") = .error (.cyclicDefinition ["a", "b", "a"]) := by
    simp [toDouble_var, toDouble_binary, resolve, aFound, bFound, square, Except.bind, bind]
  have fromSquare : later.toDouble [] square = .error (.cyclicDefinition ["b", "a", "b"]) := by
    simp [toDouble_var, toDouble_binary, resolve, aFound, bFound, square, Except.bind, bind]
  exact ⟨larger, simplified, fromName, fromSquare,
    (simplify_sound_in_extensions today later (.var "a") larger).2 square simplified⟩

end GraphCalc.Bindings

import GraphCalc.Proofs.Meaning
import Mathlib.Data.List.Basic

/-!
# Guarded evaluation

Evaluation refuses to enter a name that it is already following; the meaning of a formula knows no such
guard. This module compares the two. Whatever evaluation returns, short of a report of a circle, is
what the formula means, and evaluation finds every meaning: `Evaluates.toDouble` and `Fails.toDouble`
say so under any chain that the formula does not lead back to, and the empty chain is one.
-/

namespace GraphCalc.Bindings

variable {E : Bindings} {chain : List String} {e a b : Expr} {x y : Float} {error : CalcError}
variable [MathLibrary]

theorem toDouble_unknown {name : String} (args : List Expr) (unnamed : Op.named? name = none) :
    E.toDouble chain (.operation name args) = .error (.unknownOperation name none) := by
  rw [toDouble]
  simp only [unnamed]

theorem toDouble_command (command : Command) (args : List Expr) :
    E.toDouble chain (.operation command.name args) =
      .error (.unknownOperation command.name (some CalcError.numericContext)) := by
  have known : Op.named? command.name = some (.command command) := Op.named?_eq_some_iff.mpr rfl
  rw [toDouble]
  simp only [known]

theorem toDouble_wrongArity {op : Op} {args : List Expr} (evaluable : op.isEvaluable)
    (wrong : args.length ≠ op.arity) :
    E.toDouble chain (.operation op.name args) =
      .error (.wrongArity op.name op.arity args.length) := by
  have known : Op.named? op.name = some op := Op.named?_eq_some_iff.mpr rfl
  cases op with
  | binary op =>
    rw [toDouble]
    simp only [known]
    split
    · exact absurd rfl wrong
    · rfl
  | unary op =>
    rw [toDouble]
    simp only [known]
    split
    · exact absurd rfl wrong
    · rfl
  | command command => cases evaluable

/-- Evaluation returns a value or a fault by the rules, or reports a circle. -/
theorem toDouble_cases (E : Bindings) (chain : List String) (e : Expr) :
    (∃ x, E.toDouble chain e = .ok x ∧ Evaluates E e x) ∨
      (∃ error, E.toDouble chain e = .error error ∧ Fails E e error) ∨
      ∃ names, E.toDouble chain e = .error (.cyclicDefinition names) := by
  fun_induction toDouble E chain e with
  | case1 chain x => exact .inl ⟨x, rfl, .number x⟩
  | case2 chain name error link =>
    rcases resolve_error link with ⟨_, rfl⟩ | ⟨missing, rfl⟩
    · exact .inr (.inr ⟨_, rfl⟩)
    · exact .inr (.inl ⟨_, rfl, .unbound missing⟩)
  | case3 chain name bound extended link ih =>
    obtain ⟨_, found, _⟩ := resolve_eq_ok_iff.mp link
    rcases ih with ⟨x, result, value⟩ | ⟨error, result, fault⟩ | circle
    · exact .inl ⟨x, result, .link found value⟩
    · exact .inr (.inl ⟨error, result, .link found fault⟩)
    · exact .inr (.inr circle)
  | case4 chain name args unnamed => exact .inr (.inl ⟨_, rfl, .unknown unnamed⟩)
  | case5 chain name args command known =>
    obtain rfl := Op.named?_eq_some_iff.mp known
    exact .inr (.inl ⟨_, rfl, .command command⟩)
  | case6 chain name op known a b left right =>
    obtain rfl := Op.named?_eq_some_iff.mp known
    rcases left with ⟨x, first, value⟩ | ⟨error, first, fault⟩ | ⟨names, first⟩
    · rcases right with ⟨y, second, other⟩ | ⟨error, second, fault⟩ | ⟨names, second⟩
      · exact .inl ⟨op.apply x y, by rw [first, second]; rfl, .binary op value other⟩
      · exact .inr (.inl ⟨error, by rw [first, second]; rfl, .right op value fault⟩)
      · exact .inr (.inr ⟨names, by rw [first, second]; rfl⟩)
    · exact .inr (.inl ⟨error, by rw [first]; rfl, .left op fault⟩)
    · exact .inr (.inr ⟨names, by rw [first]; rfl⟩)
  | case7 chain name args op known wrong =>
    obtain rfl := Op.named?_eq_some_iff.mp known
    refine .inr (.inl ⟨_, rfl, .arity (.binary op) rfl fun two => ?_⟩)
    obtain ⟨a, b, rfl⟩ := List.length_eq_two.mp two
    exact wrong a b rfl
  | case8 chain name op known a operand =>
    obtain rfl := Op.named?_eq_some_iff.mp known
    rcases operand with ⟨x, first, value⟩ | ⟨error, first, fault⟩ | ⟨names, first⟩
    · exact .inl ⟨op.apply x, by rw [first]; rfl, .unary op value⟩
    · exact .inr (.inl ⟨error, by rw [first]; rfl, .operand op fault⟩)
    · exact .inr (.inr ⟨names, by rw [first]; rfl⟩)
  | case9 chain name args op known wrong =>
    obtain rfl := Op.named?_eq_some_iff.mp known
    refine .inr (.inl ⟨_, rfl, .arity (.unary op) rfl fun one => ?_⟩)
    obtain ⟨a, rfl⟩ := List.length_eq_one_iff.mp one
    exact wrong a rfl

theorem evaluates_of_toDouble (result : E.toDouble chain e = .ok x) : Evaluates E e x := by
  rcases E.toDouble_cases chain e with ⟨y, other, value⟩ | ⟨error, other, _⟩ | ⟨names, other⟩
  · rw [result] at other
    cases other
    exact value
  · rw [result] at other
    cases other
  · rw [result] at other
    cases other

theorem fails_of_toDouble (result : E.toDouble chain e = .error error) :
    Fails E e error ∨ ∃ names, error = .cyclicDefinition names := by
  rcases E.toDouble_cases chain e with ⟨y, other, _⟩ | ⟨_, other, fault⟩ | ⟨names, other⟩
  · rw [result] at other
    cases other
  · rw [result] at other
    cases other
    exact .inl fault
  · rw [result] at other
    cases other
    exact .inr ⟨names, rfl⟩

/-- A name that leads nowhere on its chain is followed. -/
theorem resolve_of_clear {name : String} {bound : Expr} (found : E.find? name = some bound)
    (clear : ¬Returns (Needs E) chain (.var name)) :
    E.resolve name chain = .ok (bound, chain ++ [name]) ∧
      ¬Returns (Needs E) (chain ++ [name]) bound := by
  obtain ⟨fresh, onwards⟩ := Returns.not_link (.link found) clear
  exact ⟨resolve_eq_ok_iff.mpr ⟨fresh, found, rfl⟩, onwards⟩

/-- Evaluation finds the value of a formula that does not lead back to the names being followed. -/
theorem Evaluates.toDouble (value : Evaluates E e x) (clear : ¬Returns (Needs E) chain e) :
    E.toDouble chain e = .ok x := by
  induction value generalizing chain with
  | number x => exact toDouble_number E chain x
  | link found _ ih =>
    obtain ⟨link, onwards⟩ := resolve_of_clear found clear
    rw [toDouble_var, link]
    exact ih onwards
  | binary op left _ leftIH rightIH =>
    rw [toDouble_binary, leftIH fun returns => clear (.step (.left op) returns),
      rightIH fun returns => clear (.step (.right op left) returns)]
    rfl
  | unary op _ ih =>
    rw [toDouble_unary, ih fun returns => clear (.step (.operand op) returns)]
    rfl

/-- Evaluation finds the fault of a formula that does not lead back to the names being followed. -/
theorem Fails.toDouble (fault : Fails E e error) (clear : ¬Returns (Needs E) chain e) :
    E.toDouble chain e = .error error := by
  induction fault generalizing chain with
  | @unbound name missing =>
    have fresh : name ∉ chain := fun member => clear (.here member)
    rw [toDouble_var, resolve, if_neg fresh, missing]
    rfl
  | link found _ ih =>
    obtain ⟨link, onwards⟩ := resolve_of_clear found clear
    rw [toDouble_var, link]
    exact ih onwards
  | unknown unnamed => exact toDouble_unknown _ unnamed
  | command command => exact toDouble_command command _
  | arity op evaluable wrong => exact toDouble_wrongArity evaluable wrong
  | left op _ ih =>
    rw [toDouble_binary, ih fun returns => clear (.step (.left op) returns)]
    rfl
  | right op value _ ih =>
    rw [toDouble_binary, value.toDouble fun returns => clear (.step (.left op) returns),
      ih fun returns => clear (.step (.right op value) returns)]
    rfl
  | operand op _ ih =>
    rw [toDouble_unary, ih fun returns => clear (.step (.operand op) returns)]
    rfl

theorem Evaluates.toDouble_nil (value : Evaluates E e x) : E.toDouble [] e = .ok x :=
  value.toDouble value.grounded.not_returns

/-- What has a fault rests on nothing circular: the walk that meets the fault goes no further. -/
theorem Fails.grounded (fault : Fails E e error) : Grounded (Needs E) e := by
  induction fault with
  | unbound missing =>
    refine .of_steps fun f needs => ?_
    cases needs with
    | link found => cases missing.symm.trans found
  | link found _ ih => exact .of_steps fun f needs => needs.of_link found ▸ ih
  | unknown unnamed =>
    refine .of_steps fun f needs => ?_
    obtain ⟨op, known, _⟩ := needs.sound
    cases unnamed.symm.trans known
  | command command =>
    refine .of_steps fun f needs => ?_
    obtain ⟨op, known, evaluable, _⟩ := needs.sound
    obtain rfl : op = .command command := Op.name_injective (Op.named?_eq_some_iff.mp known)
    cases evaluable
  | arity op _ wrong =>
    refine .of_steps fun f needs => ?_
    obtain ⟨op, known, _, right⟩ := needs.sound
    obtain rfl := Op.name_injective (Op.named?_eq_some_iff.mp known)
    exact absurd right wrong
  | left op fault ih =>
    refine .of_steps fun f needs => ?_
    rcases needs.of_two with rfl | ⟨rfl, x, value⟩
    · exact ih
    · -- a faulty first argument has no value, so the second one is never reached
      cases value.toDouble_nil.symm.trans (fault.toDouble ih.not_returns)
  | right op value _ ih =>
    refine .of_steps fun f needs => ?_
    rcases needs.of_two with rfl | ⟨rfl, _⟩
    · exact value.grounded
    · exact ih
  | operand op _ ih => exact .of_steps fun f needs => needs.of_one ▸ ih

theorem Fails.toDouble_nil (fault : Fails E e error) : E.toDouble [] e = .error error :=
  fault.toDouble fault.grounded.not_returns

/-- Evaluation reports exactly the faults, circles apart. -/
theorem toDouble_eq_error_iff_fails (noCircle : ∀ names, error ≠ .cyclicDefinition names) :
    E.toDouble [] e = .error error ↔ Fails E e error := by
  refine ⟨fun result => ?_, Fails.toDouble_nil⟩
  rcases fails_of_toDouble result with fault | ⟨names, same⟩
  · exact fault
  · exact absurd same (noCircle names)

theorem Evaluates.unique (value : Evaluates E e x) (other : Evaluates E e y) : x = y :=
  Except.ok.inj (value.toDouble_nil.symm.trans other.toDouble_nil)

theorem Evaluates.not_fails (value : Evaluates E e x) : ¬Fails E e error := by
  intro fault
  cases value.toDouble_nil.symm.trans fault.toDouble_nil

/-- Evaluation under the guard computes exactly the meaning that knows no guard: it returns a double
if and only if the rules give it, whatever circles the bindings hold. -/
theorem toDouble_eq_ok_iff_evaluates (E : Bindings) (e : Expr) (x : Float) :
    E.toDouble [] e = .ok x ↔ Evaluates E e x :=
  ⟨evaluates_of_toDouble, Evaluates.toDouble_nil⟩

end GraphCalc.Bindings

import GraphCalc.Proofs.NormalForms
import GraphCalc.Proofs.Operations
import GraphCalc.Proofs.SignedZeros

/-!
# Equal formulas

Formulas are equal under `==` if they are the same node for node, with literals that are equal as numbers; literals
that are not a number are equal to nothing. `Expr.Agree` is the same relation with all of those taken for equal.

Simplification keeps it, `simplify_respects_equality`, as it works out sums, products and negations only, and what
agrees is written alike. Evaluation keeps it unless an operation on the way tells zeros apart, which a quotient by
zero does: `toDouble_respects_equality`.
-/

namespace GraphCalc

namespace Results

variable {ε α β γ δ : Type} {R : α → β → Prop} {S : γ → δ → Prop}

/-- Outcomes that are the same error, or results of which something holds. -/
inductive Agree (R : α → β → Prop) : Except ε α → Except ε β → Prop
  | error (error : ε) : Agree R (.error error) (.error error)
  | ok {a : α} {b : β} (related : R a b) : Agree R (.ok a) (.ok b)

namespace Agree

variable {first : Except ε α} {second : Except ε β}

theorem refl {R : α → α → Prop} (each : ∀ a, R a a) (result : Except ε α) : Agree R result result := by
  cases result with
  | error error => exact .error error
  | ok a => exact .ok (each a)

theorem mono {S : α → β → Prop} (agree : Agree R first second)
    (implied : ∀ a b, first = .ok a → second = .ok b → R a b → S a b) : Agree S first second := by
  cases agree with
  | error error => exact .error error
  | ok related => exact .ok (implied _ _ rfl rfl related)

theorem bind {next : α → Except ε γ} {other : β → Except ε δ} (steps : Agree R first second)
    (rest : ∀ a b, first = .ok a → second = .ok b → R a b → Agree S (next a) (other b)) :
    Agree S (first >>= next) (second >>= other) := by
  cases steps with
  | error error => exact .error error
  | ok related => exact rest _ _ rfl rfl related

/-- A step in common makes no difference. -/
theorem same_bind {step : Except ε α} {next : α → Except ε γ} {other : α → Except ε δ}
    (rest : ∀ a, step = .ok a → Agree S (next a) (other a)) : Agree S (step >>= next) (step >>= other) := by
  cases step with
  | error error => exact .error error
  | ok a => exact rest a rfl

theorem mapM {f : α → Except ε γ} {g : β → Except ε δ} {as : List α} {bs : List β}
    (each : List.Forall₂ (fun a b => Agree S (f a) (g b)) as bs) :
    Agree (List.Forall₂ S) (as.mapM f) (bs.mapM g) := by
  induction each with
  | nil => exact .ok .nil
  | cons here _ ih =>
    rw [List.mapM_cons, List.mapM_cons]
    exact here.bind fun _ _ _ _ head => ih.bind fun _ _ _ _ tail => .ok (.cons head tail)

theorem iff_error_or_ok : Agree R first second ↔
    (∃ error, first = .error error ∧ second = .error error) ∨
      ∃ a b, first = .ok a ∧ second = .ok b ∧ R a b := by
  constructor
  · intro agree
    cases agree with
    | error error => exact .inl ⟨error, rfl, rfl⟩
    | ok related => exact .inr ⟨_, _, rfl, rfl, related⟩
  · rintro (⟨error, rfl, rfl⟩ | ⟨a, b, rfl, rfl, related⟩)
    · exact .error error
    · exact .ok related

end Agree

theorem allM_congr {f : α → Except ε Bool} {g : β → Except ε Bool} {as : List α} {bs : List β}
    (each : List.Forall₂ (fun a b => f a = g b) as bs) : as.allM f = bs.allM g := by
  induction each with
  | nil => rfl
  | cons here _ ih => rw [List.allM, List.allM, here, ih]

theorem of_allM {f : α → Except ε Bool} {as : List α} (all : as.allM f = .ok true) : ∀ a ∈ as, f a = .ok true := by
  induction as with
  | nil => nofun
  | cons a as ih =>
    rw [List.allM, bind_eq_ok_iff] at all
    obtain ⟨holds, here, rest⟩ := all
    cases holds with
    | false => cases rest
    | true => exact List.forall_mem_cons.mpr ⟨here, ih rest⟩

end Results

namespace Expr

variable {a b : Expr} {args others : List Expr}

/-- Formulas that are the same node for node, with literals that agree. -/
inductive Agree : Expr → Expr → Prop
  | number {x y : Float} (agree : Double.Agree x y) : Agree (.number x) (.number y)
  | var (name : String) : Agree (.var name) (.var name)
  | operation (name : String) {args others : List Expr} (paired : args.length = others.length)
      (each : ∀ a b, (a, b) ∈ args.zip others → Agree a b) : Agree (.operation name args) (.operation name others)

theorem Agree.of_pairs (name : String) (pairs : List.Forall₂ Agree args others) :
    Agree (.operation name args) (.operation name others) :=
  .operation name pairs.length_eq fun _ _ pair => List.forall₂_zip pairs pair

theorem Agree.refl (e : Expr) : Agree e e := by
  induction e using Expr.argumentInduction with
  | number x => exact .number (.refl x)
  | var name => exact .var name
  | operation name args ih => exact .of_pairs name (List.forall₂_same.mpr ih)

theorem forall₂_of_beqAll (equal : beqAll args others = true) :
    List.Forall₂ (fun a b => (a == b) = true) args others := by
  induction args generalizing others with
  | nil =>
    cases others with
    | nil => exact .nil
    | cons => cases equal
  | cons a args ih =>
    cases others with
    | nil => cases equal
    | cons b others =>
      obtain ⟨here, rest⟩ := Bool.and_eq_true_iff.mp equal
      exact .cons here (ih rest)

/-- Equal formulas agree. -/
theorem agree_of_beq (equal : (a == b) = true) : a.Agree b := by
  induction a using Expr.argumentInduction generalizing b with
  | number x =>
    cases b with
    | number y => exact .number (.inl equal)
    | var | operation => cases equal
  | var name =>
    cases b with
    | var other =>
      obtain rfl : name = other := eq_of_beq equal
      exact .var name
    | number | operation => cases equal
  | operation name args ih =>
    cases b with
    | operation other others =>
      obtain ⟨named, each⟩ := Bool.and_eq_true_iff.mp equal
      obtain rfl : name = other := eq_of_beq named
      have pairs := forall₂_of_beqAll each
      exact .operation name pairs.length_eq fun a b pair =>
        ih a (List.of_mem_zip pair).1 (List.forall₂_zip pairs pair)
    | number | var => cases equal

/-- Formulas that agree are written alike. -/
theorem Agree.text_eq (agree : a.Agree b) : a.text = b.text := by
  induction agree with
  | number agree => rw [text, text, agree.numeral_eq]
  | var name => rfl
  | operation name paired _ ih =>
    have texts := Results.forall₂_of_zip paired ih
    rw [text, text]
    congr 1
    rwa [← List.forall₂_eq_eq_eq, List.forall₂_map_left_iff, List.forall₂_map_right_iff]

theorem checkArity_congr (name : String) (paired : args.length = others.length) :
    checkArity name args = checkArity name others := by
  unfold checkArity
  rw [paired]

end Expr

open Results

theorem Op.name_of_lookup {op : Op} {name : String} (found : Op.lookup name = .ok op) : op.name = name := by
  unfold Op.lookup at found
  split at found <;> cases found
  exact Op.named?_eq_some_iff.mp ‹_›

/-- On two lists of the same length an operation has values or on neither, and the values agree if those in the lists
do, unless the operation tells zeros apart. -/
theorem Op.applyOr_agree [MathLibrary] (fault : CalcError) (op : Op) {R : Float → Float → Prop} {xs ys : List Float}
    (pairs : List.Forall₂ R xs ys) :
    Results.Agree (fun x y => List.Forall₂ Double.Agree xs ys → Double.Agree x y ∨ op.TellsZeros xs)
      (op.applyOr fault xs) (op.applyOr fault ys) := by
  cases op with
  | binary op =>
    rcases pairs with _ | ⟨_, _ | ⟨_, _⟩⟩
    · exact .error fault
    · exact .error fault
    · refine .ok fun agree => ?_
      obtain ⟨first, rest⟩ := List.forall₂_cons.mp agree
      exact op.apply_agree first (List.forall₂_cons.mp rest).1
  | unary op =>
    rcases pairs with _ | ⟨_, _⟩
    · exact .error fault
    · exact .ok fun agree => op.apply_agree (List.forall₂_cons.mp agree).1
  | command command => rcases pairs with _ | ⟨_, _ | ⟨_, _⟩⟩ <;> exact .error fault

namespace Bindings

variable {E : Bindings} {chain : List String} {a b : Expr} {args others : List Expr}

theorem isCalculable_eq_of_agree (agree : a.Agree b) : E.isCalculable chain a = E.isCalculable chain b := by
  cases agree with
  | number => rw [isCalculable_number, isCalculable_number]
  | var => rfl
  | operation => rw [isCalculable_operation, isCalculable_operation]

section

variable [MathLibrary]

/-- Where formulas that agree are calculable, they are literals or the same name, so their values agree. -/
theorem toDouble_agree_of_calculable (agree : a.Agree b) (calculable : E.isCalculable chain a = .ok true) :
    Results.Agree Double.Agree (E.toDouble chain a) (E.toDouble chain b) := by
  cases agree with
  | number agree =>
    rw [toDouble_number, toDouble_number]
    exact .ok agree
  | var name => exact .refl .refl _
  | operation =>
    rw [isCalculable_operation] at calculable
    cases calculable

theorem foldOr_agree (fault : CalcError) (op : Op) (agree : List.Forall₂ Expr.Agree args others) :
    Results.Agree (Option.Rel Double.Agree) (E.foldOr chain fault op args) (E.foldOr chain fault op others) := by
  unfold foldOr
  cases folds : op.folds with
  | false => exact .ok .none
  | true =>
    have asked : args.allM (E.isCalculable chain) = others.allM (E.isCalculable chain) :=
      allM_congr (agree.imp fun _ _ => isCalculable_eq_of_agree)
    rw [← asked]
    refine .same_bind fun holds all => ?_
    cases holds with
    | false => exact .ok .none
    | true =>
      have values : List.Forall₂ (fun a b => Results.Agree Double.Agree (E.toDouble chain a) (E.toDouble chain b))
          args others :=
        forall₂_of_zip agree.length_eq fun a b pair =>
          toDouble_agree_of_calculable (List.forall₂_zip agree pair) (of_allM all a (List.of_mem_zip pair).1)
      refine (Results.Agree.mapM values).bind fun xs ys _ _ agree => ?_
      refine (op.applyOr_agree fault agree).bind fun x y _ _ related => ?_
      exact .ok (.some ((related agree).resolve_right (op.not_tellsZeros_of_folds folds xs)))

/-- Simplification takes formulas that agree to formulas that agree, or fails in the same way. -/
theorem simplify_agree (agree : a.Agree b) :
    Results.Agree Expr.Agree (E.simplify chain a) (E.simplify chain b) := by
  induction agree with
  | number agree =>
    rw [simplify_number, simplify_number]
    exact .ok (.number agree)
  -- a name leads to one definition, whichever of the two formulas it stands in
  | var name => exact .refl .refl _
  | @operation name args others paired _ ih =>
    have fault : CalcError := .undefinedVariable name
    rw [simplify_operation_foldOr fault, simplify_operation_foldOr fault, Expr.checkArity_congr name paired]
    refine .same_bind fun op _ => ?_
    refine (Results.Agree.mapM (forall₂_of_zip paired ih)).bind fun reduced others _ _ agree => ?_
    refine (foldOr_agree fault op agree).bind fun folded other _ _ alike => ?_
    cases alike with
    | none => exact .ok (.of_pairs name agree)
    | some alike => exact .ok (.number alike)

/-- Simplification and display respect equality. Formulas that are equal agree; and where formulas agree,
simplification of the one and of the other fail with the same error, or succeed with formulas that agree again and are
written alike. -/
theorem simplify_respects_equality (E : Bindings) (chain : List String) (a b : Expr) :
    ((a == b) = true → a.Agree b) ∧
      (a.Agree b →
        (∃ error, E.simplify chain a = .error error ∧ E.simplify chain b = .error error) ∨
          ∃ r s, E.simplify chain a = .ok r ∧ E.simplify chain b = .ok s ∧ r.Agree s ∧ r.text = s.text) := by
  refine ⟨Expr.agree_of_beq, fun agree => ?_⟩
  have outcomes : Results.Agree Expr.Agree (E.simplify chain a) (E.simplify chain b) := simplify_agree agree
  rcases Results.Agree.iff_error_or_ok.mp outcomes with failed | ⟨r, s, first, second, alike⟩
  · exact .inl failed
  · exact .inr ⟨r, s, first, second, alike, alike.text_eq⟩

end

theorem simplify_respects_equality_of_signed_zeros :
    let E : Bindings := NameMap.ofList [("x", .number (-2.5))]
    let quotient (divisor : Expr) : Expr := .operation BinaryOp.div.name [.var "y", divisor]
    let product (zero : Float) : Expr := .operation BinaryOp.mul.name [.number zero, .var "x"]
    let a := quotient (product 0)
    let b := quotient (product (-0.0))
    (a == b) = true ∧ E.simplify [] a = .ok (quotient (.number (-0.0))) ∧
      E.simplify [] b = .ok (quotient (.number 0)) ∧
      (quotient (.number (-0.0))).Agree (quotient (.number 0)) ∧
      (quotient (.number (-0.0))).text = (quotient (.number 0)).text := by
  intro E quotient product a b
  have simplified (zero : Float) :
      E.simplify [] (quotient (product zero)) = .ok (quotient (.number (zero * -2.5))) := by
    have folded : Reduces E (product zero) (.number (zero * -2.5)) :=
      .of_pairs (.binary .mul) rfl (.cons (.number zero) (.cons (.link (by decide) (.number _)) .nil))
    exact simplify_eq_ok_iff_reduces.mpr
      (.of_pairs (.binary .div) rfl (.cons (.unbound (by decide)) (.cons folded .nil)))
  have minus : (0 : Float) * -2.5 = -0.0 := by decide
  have plus : (-0.0 : Float) * -2.5 = 0 := by decide
  have ofA : E.simplify [] a = .ok (quotient (.number (-0.0))) := minus ▸ simplified 0
  have ofB : E.simplify [] b = .ok (quotient (.number 0)) := plus ▸ simplified (-0.0)
  have equal : (a == b) = true := by decide
  have respects := simplify_respects_equality E [] a b
  rcases respects.2 (respects.1 equal) with ⟨error, failed, _⟩ | ⟨r, s, first, second, agree, texts⟩
  · cases ofA.symm.trans failed
  · cases ofA.symm.trans first
    cases ofB.symm.trans second
    exact ⟨equal, ofA, ofB, agree, texts⟩

section

variable [MathLibrary]

/-- The arguments of an operation evaluate to doubles that agree, and the operation may tell zeros apart there. -/
def ReachesZeros (E : Bindings) (chain : List String) (op : Op) (args others : List Expr) : Prop :=
  ∃ xs ys, List.Forall₂ (fun arg x => E.toDouble chain arg = .ok x) args xs ∧
    List.Forall₂ (fun arg y => E.toDouble chain arg = .ok y) others ys ∧ List.Forall₂ Double.Agree xs ys ∧
    op.TellsZeros xs

/-- Somewhere in two formulas that agree, an operation and the one in its place tell zeros apart: the values of their
arguments agree, and their own values do not. -/
inductive Parting (E : Bindings) (chain : List String) : Expr → Expr → Prop
  | here (op : Op) {args others : List Expr} {x y : Float} (zeros : ReachesZeros E chain op args others)
      (first : E.toDouble chain (.operation op.name args) = .ok x)
      (second : E.toDouble chain (.operation op.name others) = .ok y) (apart : ¬Double.Agree x y) :
      Parting E chain (.operation op.name args) (.operation op.name others)
  | inside {name : String} {args others : List Expr} {a b : Expr} (pair : (a, b) ∈ args.zip others)
      (parting : Parting E chain a b) : Parting E chain (.operation name args) (.operation name others)

/-- Where the values of the arguments agree or there is an excuse, the values of the operations agree, or there is the
excuse, or the operation may tell zeros apart. -/
theorem toDouble_operation_agree {name : String} {excuse : Prop}
    (each : List.Forall₂ (fun a b =>
      Results.Agree (fun x y => Double.Agree x y ∨ excuse) (E.toDouble chain a) (E.toDouble chain b)) args others) :
    Results.Agree
      (fun x y => Double.Agree x y ∨ excuse ∨ ∃ op : Op, op.name = name ∧ ReachesZeros E chain op args others)
      (E.toDouble chain (.operation name args)) (E.toDouble chain (.operation name others)) := by
  have fault : CalcError := .undefinedVariable name
  rw [toDouble_operation fault, toDouble_operation fault, Expr.checkArity_congr name each.length_eq]
  refine .same_bind fun op found => ?_
  cases evaluable : op.isEvaluable with
  | false => exact .error _
  | true =>
    refine .same_bind fun _ _ => ?_
    refine (Results.Agree.mapM each).bind fun xs ys evaluatedX evaluatedY related => ?_
    refine (op.applyOr_agree fault related).mono fun x y _ _ applied => ?_
    by_cases excused : excuse
    · exact .inr (.inl excused)
    · have agree := related.imp fun _ _ pair => pair.resolve_right excused
      refine (applied agree).imp_right fun tells => .inr ⟨op, Op.name_of_lookup found, xs, ys, ?_⟩
      exact ⟨mapM_eq_ok_iff.mp evaluatedX, mapM_eq_ok_iff.mp evaluatedY, agree, tells⟩

/-- Evaluation takes formulas that agree to values that agree, or fails in the same way, unless the formulas part. -/
theorem toDouble_agree (agree : a.Agree b) :
    Results.Agree (fun x y => Double.Agree x y ∨ Parting E chain a b) (E.toDouble chain a) (E.toDouble chain b) := by
  induction agree with
  | number agree =>
    rw [toDouble_number, toDouble_number]
    exact .ok (.inl agree)
  | var name => exact .refl (fun x => .inl (.refl x)) _
  | @operation name args others paired _ ih =>
    have each : List.Forall₂ (fun a b => Results.Agree
        (fun x y => Double.Agree x y ∨ ∃ a b, (a, b) ∈ args.zip others ∧ Parting E chain a b)
        (E.toDouble chain a) (E.toDouble chain b)) args others :=
      forall₂_of_zip paired fun a b pair =>
        (ih a b pair).mono fun x y _ _ related => related.imp_right fun parting => ⟨a, b, pair, parting⟩
    refine (toDouble_operation_agree each).mono fun x y first second related => ?_
    rcases related with agree | ⟨a, b, pair, parting⟩ | ⟨op, rfl, zeros⟩
    · exact .inl agree
    · exact .inr (.inside pair parting)
    · by_cases agree : Double.Agree x y
      · exact .inl agree
      · exact .inr (.here op zeros first second agree)

/-- Evaluation respects equality as far as its operations do. Formulas that are equal agree; and where formulas agree,
evaluation of the one and of the other fail with the same error, or come to doubles that are equal as numbers or both
not a number, unless the formulas part at an operation that tells zeros apart. -/
theorem toDouble_respects_equality (E : Bindings) (chain : List String) (a b : Expr) :
    ((a == b) = true → a.Agree b) ∧
      (a.Agree b →
        (∃ error, E.toDouble chain a = .error error ∧ E.toDouble chain b = .error error) ∨
          ∃ x y, E.toDouble chain a = .ok x ∧ E.toDouble chain b = .ok y ∧
            (Double.Agree x y ∨ Parting E chain a b)) :=
  ⟨Expr.agree_of_beq, fun agree => Results.Agree.iff_error_or_ok.mp (toDouble_agree agree)⟩

end

theorem toDouble_respects_equality_of_signed_zeros :
    let E : Bindings := NameMap.ofList [("x", .number (-2.5))]
    let product (zero : Float) : Expr := .operation BinaryOp.mul.name [.number zero, .var "x"]
    (product 0 == product (-0.0)) = true ∧ E.toDouble [] (product 0) = .ok (-0.0) ∧
      E.toDouble [] (product (-0.0)) = .ok 0 ∧
      (Double.Agree (-0.0) 0 ∨ Parting E [] (product 0) (product (-0.0))) := by
  intro E product
  have value (zero : Float) : E.toDouble [] (product zero) = .ok (zero * -2.5) :=
    (Evaluates.binary .mul (.number zero) (.link (by decide) (.number _))).toDouble_nil
  have minus : (0 : Float) * -2.5 = -0.0 := by decide
  have plus : (-0.0 : Float) * -2.5 = 0 := by decide
  have ofZero : E.toDouble [] (product 0) = .ok (-0.0) := minus ▸ value 0
  have ofNegativeZero : E.toDouble [] (product (-0.0)) = .ok 0 := plus ▸ value (-0.0)
  have equal : (product 0 == product (-0.0)) = true := by decide
  have respects := toDouble_respects_equality E [] (product 0) (product (-0.0))
  rcases respects.2 (respects.1 equal) with ⟨error, failed, _⟩ | ⟨x, y, first, second, related⟩
  · cases ofZero.symm.trans failed
  · cases ofZero.symm.trans first
    cases ofNegativeZero.symm.trans second
    exact ⟨equal, ofZero, ofNegativeZero, related⟩

/-- A quotient by zero and the equal one by the other zero are different infinities. -/
theorem equal_quotients_differ :
    let quotient (zero : Float) : Expr := .operation BinaryOp.div.name [.number 1, .number zero]
    (quotient 0 == quotient (-0.0)) = true ∧ (∅ : Bindings).toDouble [] (quotient 0) = .ok Float.inf ∧
      (∅ : Bindings).toDouble [] (quotient (-0.0)) = .ok (-Float.inf) ∧
      Float.inf ≠ -Float.inf ∧ ¬Double.Agree Float.inf (-Float.inf) := by
  intro quotient
  have value (zero : Float) : (∅ : Bindings).toDouble [] (quotient zero) = .ok (1 / zero) :=
    (Evaluates.binary .div (.number 1) (.number zero)).toDouble_nil
  have above : (1 : Float) / 0 = Float.inf := by decide
  have below : (1 : Float) / -0.0 = -Float.inf := by decide
  have apart : ¬Double.Agree (1 / 0) (1 / -0.0) := Double.not_agree_div_zeros (.inr (by decide))
  rw [above, below] at apart
  exact ⟨by decide, above ▸ value 0, below ▸ value (-0.0), by decide, apart⟩

end Bindings

end GraphCalc

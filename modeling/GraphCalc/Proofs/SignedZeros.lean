import GraphCalc.Op
import GraphCalc.Proofs.Numerals

/-!
# Signed zeros

The two zeros are equal as numbers and differ as doubles. Sums, differences, products and negations of doubles that
are equal up to the sign of a zero are equal up to the sign of a zero again. A quotient by a zero is not: there the
sign of the zero becomes the sign of an infinity, `not_agree_div_zeros`. What a power, a sine or a cosine makes of a
zero is up to the mathematics library.

`BinaryOp.apply_agree` and `UnaryOp.apply_agree` say so of the operations of formulas, with `TellsZeros` for the
arguments where an operation may tell zeros apart.
-/

namespace GraphCalc

namespace Double

open Float.Model Float.Model.UnpackedFloat

variable {f f' g g' h : UnpackedFloat} {x x' y y' : Float}

/-- Unpacked doubles that are the same up to the sign of a zero. -/
inductive Alike : UnpackedFloat → UnpackedFloat → Prop
  | same (f : UnpackedFloat) : Alike f f
  | zeros (s t : Sign) : Alike (.zero s) (.zero t)

namespace Alike

theorem symm (alike : Alike f g) : Alike g f := by
  cases alike with
  | same => exact .same f
  | zeros s t => exact .zeros t s

theorem trans (first : Alike f g) (second : Alike g h) : Alike f h := by
  cases first with
  | same => exact second
  | zeros s t =>
    cases second with
    | same => exact .zeros s t
    | zeros _ u => exact .zeros s u

/-- Packing keeps the kind of a zero. -/
theorem pack (alike : Alike f g) : Alike (Float.Model.pack f).unpack (Float.Model.pack g).unpack := by
  cases alike with
  | same => exact .same _
  | zeros s t => cases s <;> cases t <;> constructor

/-- An operation respects the signs of zeros if it does so in each of its arguments. -/
theorem both {op : UnpackedFloat → UnpackedFloat → UnpackedFloat}
    (left : ∀ s t f, Alike (op (.zero s) f) (op (.zero t) f))
    (right : ∀ s t f, Alike (op f (.zero s)) (op f (.zero t))) (first : Alike f f') (second : Alike g g') :
    Alike (op f g) (op f' g') := by
  have firstChanged : Alike (op f g) (op f' g) := by
    cases first with
    | same => exact .same _
    | zeros s t => exact left s t g
  have secondChanged : Alike (op f' g) (op f' g') := by
    cases second with
    | same => exact .same _
    | zeros s t => exact right s t f'
  exact firstChanged.trans secondChanged

theorem add (first : Alike f f') (second : Alike g g') :
    Alike (UnpackedFloat.add .binary64 f g) (UnpackedFloat.add .binary64 f' g') := by
  refine both (fun s t f => ?_) (fun s t f => ?_) first second
  · cases f with
    | zero sign => cases s <;> cases t <;> cases sign <;> constructor
    | _ => exact .same _
  · cases f with
    | zero sign => cases s <;> cases t <;> cases sign <;> constructor
    | _ => exact .same _

theorem sub (first : Alike f f') (second : Alike g g') :
    Alike (UnpackedFloat.sub .binary64 f g) (UnpackedFloat.sub .binary64 f' g') := by
  refine both (fun s t f => ?_) (fun s t f => ?_) first second
  · cases f with
    | zero sign => cases s <;> cases t <;> cases sign <;> constructor
    | _ => exact .same _
  · cases f with
    | zero sign => cases s <;> cases t <;> cases sign <;> constructor
    | _ => exact .same _

theorem mul (first : Alike f f') (second : Alike g g') :
    Alike (UnpackedFloat.mul .binary64 f g) (UnpackedFloat.mul .binary64 f' g') := by
  refine both (fun s t f => ?_) (fun s t f => ?_) first second
  · cases f with
    | zero sign => exact .zeros _ _
    | finite sign => exact .zeros _ _
    | _ => exact .same _
  · cases f with
    | zero sign => exact .zeros _ _
    | finite sign => exact .zeros _ _
    | _ => exact .same _

/-- The sign of a zero that is divided goes no further than the sign of a zero. -/
theorem div (first : Alike f f') (g : UnpackedFloat) :
    Alike (UnpackedFloat.div .binary64 f g) (UnpackedFloat.div .binary64 f' g) := by
  cases first with
  | same => exact .same _
  | zeros s t =>
    cases g with
    | infinity | finite => exact .zeros _ _
    | _ => exact .same _

/-- Where there is no sign to hand on, the sign of a zero divisor goes nowhere. -/
theorem div_zeros (first : Alike f f') (unsigned : f = .notANumber ∨ ∃ sign, f = .zero sign) (s t : Sign) :
    Alike (UnpackedFloat.div .binary64 f (.zero s)) (UnpackedFloat.div .binary64 f' (.zero t)) := by
  rcases unsigned with rfl | ⟨sign, rfl⟩
  · cases first
    exact .same _
  · cases first <;> exact .same _

theorem neg (alike : Alike f g) : Alike f.neg g.neg := by
  cases alike with
  | same => exact .same _
  | zeros s t => exact .zeros _ _

end Alike

/-- Doubles that are equal as numbers, or both not a number. -/
def Agree (x y : Float) : Prop := (x == y) = true ∨ (x.isNaN ∧ y.isNaN)

theorem alike_of_compare (equal : f.compare g = some .eq) : Alike f g := by
  cases f with
  | notANumber => cases equal
  | infinity s =>
    cases g with
    | infinity t => cases s <;> cases t <;> first | exact .same _ | cases equal
    | _ => cases s <;> cases equal
  | zero s =>
    cases g with
    | zero t => exact .zeros s t
    | notANumber => cases equal
    | infinity t | finite t => cases t <;> cases equal
  | finite s m e =>
    cases g with
    | finite t n d =>
      have placed (magnitudes : (compare e d).then (compare m n) = .eq) : e = d ∧ m = n := by
        simpa [Ordering.then_eq_eq] using magnitudes
      cases s with
      | negative =>
        cases t with
        | negative =>
          obtain ⟨rfl, rfl⟩ := placed (by simpa [UnpackedFloat.compare] using equal)
          exact .same _
        | positive => cases equal
      | positive =>
        cases t with
        | negative => cases equal
        | positive =>
          obtain ⟨rfl, rfl⟩ := placed (Option.some.inj equal)
          exact .same _
    | notANumber => cases s <;> cases equal
    | infinity t => cases s <;> cases t <;> cases equal
    | zero t => cases s <;> cases equal

theorem Alike.rank_eq (alike : Alike x.toModel.unpack y.toModel.unpack) : rank x = rank y := by
  unfold rank
  generalize x.toModel.unpack = f at alike ⊢
  generalize y.toModel.unpack = g at alike ⊢
  cases alike <;> rfl

theorem Alike.isNumber (alike : Alike x.toModel.unpack y.toModel.unpack) (number : IsNumber x) : IsNumber y := by
  unfold IsNumber at number ⊢
  generalize x.toModel.unpack = f at alike number
  generalize y.toModel.unpack = g at alike ⊢
  cases alike with
  | same => exact number
  | zeros => exact nofun

theorem isNaN_iff : x.isNaN = true ↔ ¬IsNumber x := by
  have unfolded : x.isNaN = x.toModel.unpack.isNaN := rfl
  rw [unfolded, IsNumber]
  cases x.toModel.unpack <;> simp [UnpackedFloat.isNaN]

/-- Doubles agree exactly if they have the same unpacked form up to the sign of a zero. -/
theorem agree_iff_alike : Agree x y ↔ Alike x.toModel.unpack y.toModel.unpack := by
  constructor
  · rintro (equal | ⟨noneX, noneY⟩)
    · exact alike_of_compare (eq_of_beq equal)
    · have shapeX := not_not.mp (isNaN_iff.mp noneX)
      have shapeY := not_not.mp (isNaN_iff.mp noneY)
      rw [shapeX, shapeY]
      exact .same _
  · intro alike
    by_cases number : IsNumber x
    · exact .inl (beq_iff_rank_eq.mpr ⟨number, alike.isNumber number, alike.rank_eq⟩)
    · exact .inr ⟨isNaN_iff.mpr number, isNaN_iff.mpr fun other => number (alike.symm.isNumber other)⟩

theorem beq_zero_iff : (x == 0) = true ↔ ∃ sign, x.toModel.unpack = .zero sign := by
  have zero : (0 : Float).toModel.unpack = .zero .positive := rfl
  constructor
  · intro equal
    have alike : Alike x.toModel.unpack (.zero .positive) := alike_of_compare (eq_of_beq equal)
    generalize x.toModel.unpack = f at alike ⊢
    cases alike with
    | same => exact ⟨_, rfl⟩
    | zeros s => exact ⟨s, rfl⟩
  · rintro ⟨sign, shape⟩
    have alike : Alike x.toModel.unpack (0 : Float).toModel.unpack := shape ▸ zero ▸ .zeros sign .positive
    exact beq_iff_rank_eq.mpr ⟨alike.symm.isNumber isNumber_zero, isNumber_zero, alike.rank_eq⟩

namespace Agree

theorem refl (x : Float) : Agree x x := agree_iff_alike.mpr (.same _)

/-- Doubles that agree are the same or both zeros. -/
theorem eq_or_zeros (agree : Agree x y) : x = y ∨ (x == 0) = true ∧ (y == 0) = true := by
  have alike := agree_iff_alike.mp agree
  generalize shapeX : x.toModel.unpack = f at alike
  generalize shapeY : y.toModel.unpack = g at alike
  cases alike with
  | same => exact .inl (eq_of_unpack_eq (shapeX.trans shapeY.symm))
  | zeros s t => exact .inr ⟨beq_zero_iff.mpr ⟨s, shapeX⟩, beq_zero_iff.mpr ⟨t, shapeY⟩⟩

theorem add (first : Agree x x') (second : Agree y y') : Agree (x + y) (x' + y') :=
  agree_iff_alike.mpr ((agree_iff_alike.mp first).add (agree_iff_alike.mp second)).pack

theorem sub (first : Agree x x') (second : Agree y y') : Agree (x - y) (x' - y') :=
  agree_iff_alike.mpr ((agree_iff_alike.mp first).sub (agree_iff_alike.mp second)).pack

theorem mul (first : Agree x x') (second : Agree y y') : Agree (x * y) (x' * y') :=
  agree_iff_alike.mpr ((agree_iff_alike.mp first).mul (agree_iff_alike.mp second)).pack

theorem neg (agree : Agree x y) : Agree (-x) (-y) := agree_iff_alike.mpr (agree_iff_alike.mp agree).neg.pack

/-- Quotients agree, but for the quotient of a signed number and a zero. -/
theorem div (first : Agree x x') (second : Agree y y') :
    Agree (x / y) (x' / y') ∨ (y == 0) = true ∧ (x < 0 ∨ 0 < x) := by
  have alike := agree_iff_alike.mp first
  rcases second.eq_or_zeros with rfl | ⟨zeroY, zeroY'⟩
  · exact .inl (agree_iff_alike.mpr (alike.div _).pack)
  · have quotient (unsigned : x.toModel.unpack = .notANumber ∨ ∃ sign, x.toModel.unpack = .zero sign) :
        Agree (x / y) (x' / y') := by
      obtain ⟨s, shapeY⟩ := beq_zero_iff.mp zeroY
      obtain ⟨t, shapeY'⟩ := beq_zero_iff.mp zeroY'
      have quotients := (alike.div_zeros unsigned s t).pack
      rw [← shapeY, ← shapeY'] at quotients
      exact agree_iff_alike.mpr quotients
    rcases nan_or_zero_or_signed x with rfl | zero | signed
    · exact .inl (quotient (.inl rfl))
    · exact .inl (quotient (.inr zero))
    · exact .inr ⟨zeroY, signed⟩

/-- Doubles that agree are written alike. -/
theorem numeral_eq (agree : Agree x y) : numeral x = numeral y := by
  rcases agree.eq_or_zeros with rfl | ⟨zeroX, zeroY⟩
  · rfl
  · obtain ⟨s, shapeX⟩ := beq_zero_iff.mp zeroX
    obtain ⟨t, shapeY⟩ := beq_zero_iff.mp zeroY
    rw [numeral_of_zero shapeX, numeral_of_zero shapeY]

end Agree

/-- The quotients of a signed number by the two zeros are different infinities. -/
theorem not_agree_div_zeros (signed : x < 0 ∨ 0 < x) : ¬Agree (x / 0) (x / -0.0) := by
  intro agree
  have alike : Alike (Float.Model.pack (UnpackedFloat.div .binary64 x.toModel.unpack (.zero .positive))).unpack
      (Float.Model.pack (UnpackedFloat.div .binary64 x.toModel.unpack (.zero .negative))).unpack :=
    agree_iff_alike.mp agree
  have apart (sign : Sign) : ¬Alike (Float.Model.pack (.infinity (sign / .positive))).unpack
      (Float.Model.pack (.infinity (sign / .negative))).unpack := by
    cases sign <;> exact nofun
  rw [lt_zero_iff_rank, zero_lt_iff_rank, IsNumber, rank] at signed
  generalize x.toModel.unpack = f at alike signed
  cases f with
  | notANumber | zero => simp at signed
  | infinity sign | finite sign =>
    rw [UnpackedFloat.div, UnpackedFloat.div] at alike
    exact apart sign alike

end Double

open Double (Agree)

variable {x x' y y' : Float}

/-- The arguments where an operation may tell the signs of zeros apart: a quotient of a signed number and a zero, and
powers to zero and of zero, which are the library's. -/
def BinaryOp.TellsZeros : BinaryOp → Float → Float → Prop
  | add, _, _ | sub, _, _ | mul, _, _ => False
  | div, x, y => (y == 0) = true ∧ (x < 0 ∨ 0 < x)
  | pow, x, y => (y == 0) = true ∨ (x == 0) = true

/-- The argument where an operation may tell the signs of zeros apart: the sine and the cosine of zero are the
library's. -/
def UnaryOp.TellsZeros : UnaryOp → Float → Prop
  | negate, _ => False
  | sin, x | cos, x => (x == 0) = true

/-- The values where an operation may tell the signs of zeros apart. -/
def Op.TellsZeros : Op → List Float → Prop
  | .binary op, x :: y :: _ => op.TellsZeros x y
  | .unary op, x :: _ => op.TellsZeros x
  | _, _ => False

/-- What simplification works out tells no zeros apart. -/
theorem Op.not_tellsZeros_of_folds {op : Op} (folds : op.folds) (values : List Float) : ¬op.TellsZeros values := by
  cases op with
  | binary op =>
    rcases values with _ | ⟨x, _ | ⟨y, _⟩⟩
    · exact id
    · exact id
    · cases op with
      | add | sub | mul => exact id
      | div | pow => cases folds
  | unary op =>
    rcases values with _ | ⟨x, _⟩
    · exact id
    · cases op with
      | negate => exact id
      | sin | cos => cases folds
  | command command => cases folds

theorem BinaryOp.apply_agree [MathLibrary] (op : BinaryOp) (first : Agree x x') (second : Agree y y') :
    Agree (op.apply x y) (op.apply x' y') ∨ op.TellsZeros x y := by
  cases op with
  | add => exact .inl (first.add second)
  | sub => exact .inl (first.sub second)
  | mul => exact .inl (first.mul second)
  | div => exact first.div second
  | pow =>
    rcases first.eq_or_zeros with rfl | ⟨zero, _⟩
    · rcases second.eq_or_zeros with rfl | ⟨zero, _⟩
      · exact .inl (.refl _)
      · exact .inr (.inl zero)
    · exact .inr (.inr zero)

theorem UnaryOp.apply_agree [MathLibrary] (op : UnaryOp) (agree : Agree x y) :
    Agree (op.apply x) (op.apply y) ∨ op.TellsZeros x := by
  cases op with
  | negate => exact .inl agree.neg
  | sin | cos =>
    rcases agree.eq_or_zeros with rfl | ⟨zero, _⟩
    · exact .inl (.refl _)
    · exact .inr zero

end GraphCalc

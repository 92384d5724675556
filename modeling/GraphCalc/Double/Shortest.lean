import GraphCalc.Double.Basic

/-!
# The shortest decimal of a double

A decimal reads back as a double if it lies in the interval of numbers that round to it. Among the
decimals that do, `shortest` takes one with the fewest digits, of these the one nearest to the double,
and of two equally near ones the one with the even last digit. All of it is exact rational arithmetic
on a positive magnitude `mantissa * 2 ^ exponent`; signs, infinities and the layout of the text are
elsewhere.
-/

namespace GraphCalc.Double

/-- The number `coefficient * 10 ^ exponent`. -/
structure Decimal where
  coefficient : Nat
  exponent : Int
deriving DecidableEq, Repr

def Decimal.value (d : Decimal) : Rat := d.coefficient * (10 : Rat) ^ d.exponent

def magnitude (mantissa : Nat) (exponent : Int) : Rat := mantissa * (2 : Rat) ^ exponent

/-- An interval of rational numbers, with both its ends or with neither. -/
structure Interval where
  low : Rat
  high : Rat
  closed : Bool

def Interval.contains (r : Interval) (x : Rat) : Bool :=
  if r.closed then r.low ≤ x && x ≤ r.high else r.low < x && x < r.high

/-- The numbers that round to a magnitude: half a unit to either side, but only a quarter below a
power of two, where the doubles lie twice as close. The ends round to the even mantissa. -/
def roundingInterval (mantissa : Nat) (exponent : Int) : Interval :=
  let below : Rat := if 2 * mantissa = mantissaLimit ∧ minExponent < exponent then 1 / 4 else 1 / 2
  { low := (mantissa - below) * (2 : Rat) ^ exponent
    high := (mantissa + 1 / 2) * (2 : Rat) ^ exponent
    closed := mantissa % 2 = 0 }

/-- Of the multiples of `10 ^ grid` next to a value the one in the interval, the nearer if both are,
the even one if both are equally near. -/
def nearestOnGrid? (value : Rat) (interval : Interval) (grid : Int) : Option Decimal :=
  let scaled := value / (10 : Rat) ^ grid
  let lower := scaled.floor.toNat
  let below : Decimal := ⟨lower, grid⟩
  let above : Decimal := ⟨lower + 1, grid⟩
  match interval.contains below.value, interval.contains above.value with
  | false, false => none
  | true, false => some below
  | false, true => some above
  | true, true =>
    let fraction := scaled - lower
    let nearer := fraction < 1 / 2 ∨ (fraction = 1 / 2 ∧ lower % 2 = 0)
    some (if nearer then below else above)

/-- The exponent of the first significant decimal digit of a positive rational. -/
def leadingExponent (x : Rat) : Int :=
  if 1 ≤ x then (Nat.toDigits 10 x.floor.toNat).length - 1
  else -(Nat.toDigits 10 ((x.den - 1) / x.num.toNat)).length

/-- The decimal equal to a magnitude. -/
def exactDecimal (mantissa : Nat) (exponent : Int) : Decimal :=
  if 0 ≤ exponent then ⟨mantissa <<< exponent.toNat, 0⟩
  else ⟨mantissa * Nat.pow 5 (-exponent).toNat, exponent⟩

/-- The first hit on ever finer grids, one more digit on each. Seventeen digits are enough for every
double; the exact decimal stands for more. -/
def shortest (mantissa : Nat) (exponent : Int) : Decimal :=
  let value := magnitude mantissa exponent
  let interval := roundingInterval mantissa exponent
  let leading := leadingExponent value
  ((List.range 17).findSome? fun (finer : Nat) =>
      nearestOnGrid? value interval (leading - finer)).getD
    (exactDecimal mantissa exponent)

end GraphCalc.Double

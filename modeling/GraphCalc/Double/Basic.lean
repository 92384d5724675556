/-!
# Doubles

Formulas are worked out in binary64 arithmetic: `Float`, whose `+`, `-`, `*`, `/` and comparisons core
defines by exact rounding to nearest. Two `Float`s are equal as terms exactly if they have the same
bits or are both not a number, so `=` between doubles is the strict comparison and `==` the numerical
one.

This module takes a double apart and converts integers to doubles and back.
-/

namespace GraphCalc.Double

/-- A double by kind. A finite one is `mantissa * 2 ^ exponent`, negated if its sign says so; zero has
mantissa `0` and either sign. -/
inductive Parts where
  | nan
  | infinite (negative : Bool)
  | finite (negative : Bool) (mantissa : Nat) (exponent : Int)
deriving DecidableEq, Repr

/-- The exponent that the smallest mantissas are stored under. -/
def minExponent : Int := -1074

/-- Two to the 53rd power. Every mantissa is below it. -/
def mantissaLimit : Nat := 9007199254740992

def isNegative : Float.Model.UnpackedFloat.Sign → Bool
  | .negative => true
  | .positive => false

/-- The parts of a double. A mantissa is below `mantissaLimit`, and below half of it only under
`minExponent`. -/
def parts (x : Float) : Parts :=
  match x.toModel.unpack with
  | .notANumber => .nan
  | .infinity s => .infinite (isNegative s)
  | .zero s => .finite (isNegative s) 0 minExponent
  | .finite s m e _ => .finite (isNegative s) m e

/-- The double nearest to a natural number, ties to even; an infinity beyond the range. -/
def ofNat (n : Nat) : Float := .ofModel (.ofNat n)

/-- The double nearest to an integer, unless it rounds beyond the range of finite doubles. -/
def ofInt? (n : Int) : Option Float :=
  let x : Float := .ofModel (.ofInt n)
  if x.isFinite then some x else none

/-- The natural number that `mantissa * 2 ^ exponent` is, if it is whole. -/
def wholeMagnitude? (mantissa : Nat) (exponent : Int) : Option Nat :=
  if 0 ≤ exponent then some (mantissa <<< exponent.toNat)
  else
    let unit := 1 <<< (-exponent).toNat
    if mantissa % unit = 0 then some (mantissa / unit) else none

/-- The integer that a double is, if it is one. Both zeros are `0`. -/
def toInt? (x : Float) : Option Int :=
  match parts x with
  | .finite negative m e =>
    (wholeMagnitude? m e).map fun k => if negative then -(k : Int) else k
  | _ => none

end GraphCalc.Double

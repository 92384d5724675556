import GraphCalc.Double.Shortest

/-!
# The text of a double

`text` writes the shortest decimal that reads back, positionally for medium sizes and with an exponent
otherwise, always with a mark that it is no integer: `5.0`, `1e+16`, `-0.0`, `inf`, `nan`. `numeral`
writes a literal of a formula, where a whole number of moderate size stands without a fraction.
-/

namespace GraphCalc.Double

/-- How the digits of a decimal are set. -/
structure Layout where
  /-- The least exponent of the first digit that is written positionally. -/
  leastPositional : Int
  /-- The first exponent that is no longer written positionally. -/
  positionalLimit : Int
  /-- How many digits an exponent has at least. -/
  exponentDigits : Nat

/-- Positional from `0.0001` up to sixteen digits before the point; exponents have two digits. -/
def layout : Layout := ⟨-4, 16, 2⟩

def zeros (n : Nat) : List Char := List.replicate n '0'

def dropTrailingZeros (digits : List Char) : List Char :=
  (digits.reverse.dropWhile (· == '0')).reverse

/-- Digits around a point, the first of them at a non-negative or negative power of ten. -/
def positional (digits : List Char) (leading : Int) : List Char :=
  if leading < 0 then ['0', '.'] ++ zeros (-leading - 1).toNat ++ digits
  else
    let whole := leading.toNat + 1
    let integerPart := digits.take whole ++ zeros (whole - digits.length)
    let fraction := digits.drop whole
    integerPart ++ ['.'] ++ if fraction.isEmpty then ['0'] else fraction

/-- One digit, a fraction if there is one, and the signed exponent. -/
def scientific (layout : Layout) (digits : List Char) (leading : Int) : List Char :=
  let exponent := Nat.toDigits 10 leading.natAbs
  let point := if digits.length ≤ 1 then [] else ['.']
  digits.take 1 ++ point ++ digits.drop 1 ++ ['e', if leading < 0 then '-' else '+'] ++
    zeros (layout.exponentDigits - exponent.length) ++ exponent

/-- The text of a decimal without superfluous zeros. -/
def Decimal.text (layout : Layout) (d : Decimal) : String :=
  let digits := Nat.toDigits 10 d.coefficient
  let leading := d.exponent + digits.length - 1
  let significant := dropTrailingZeros digits
  String.ofList <|
    if layout.leastPositional ≤ leading ∧ leading < layout.positionalLimit then
      positional significant leading
    else scientific layout significant leading

/-- The text of a finite magnitude. -/
def magnitudeText (mantissa : Nat) (exponent : Int) : String :=
  (if mantissa = 0 then ⟨0, 0⟩ else shortest mantissa exponent : Decimal).text layout

def sign (negative : Bool) : String := if negative then "-" else ""

/-- The shortest text that reads back as the double. -/
def text (x : Float) : String :=
  match parts x with
  | .nan => "nan"
  | .infinite negative => sign negative ++ "inf"
  | .finite negative m e => sign negative ++ magnitudeText m e

/-- Ten to the 16th power. Whole numbers from this magnitude on are written like other doubles. -/
def wholeLimit : Nat := 10000000000000000

/-- A literal of a formula: the digits of a whole number below `wholeLimit`, so `0` for either zero,
and the text of the double for all else. -/
def numeral (x : Float) : String :=
  match toInt? x with
  | some n => if n.natAbs < wholeLimit then toString n else text x
  | none => text x

end GraphCalc.Double

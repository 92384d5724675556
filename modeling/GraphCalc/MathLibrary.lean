/-!
# The mathematics library

Powers, sines and cosines are not worked out by the calculator. They come from a mathematics library, and what
a library makes of particular arguments is up to it. Nothing is asked of one: what is said about formulas holds
with every library.
-/

namespace GraphCalc

/-- The double functions that are taken from elsewhere. -/
class MathLibrary where
  power : Float → Float → Float
  sin : Float → Float
  cos : Float → Float

/-- The library that the calculator runs with. Examples are worked out with it, and none of them takes a power, a sine
or a cosine. A power to one half is a square root there: that of -0 is -0, and -∞ has none. -/
instance MathLibrary.platform : MathLibrary where
  power x y := if y == 0.5 then x.sqrt else x.pow y
  sin := Float.sin
  cos := Float.cos

end GraphCalc

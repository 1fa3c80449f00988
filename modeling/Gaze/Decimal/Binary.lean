/-!
Binary64 words as numbers.

A word holds a sign bit, an eleven-bit biased exponent and a 52-bit fraction. All ones in the
exponent mark infinity (fraction zero) or an undefined value; otherwise the word is the sign and
the magnitude `mantissa · 2^exponent`, with the hidden bit added when the exponent field is not
zero.

The rounding interval of a finite word is the set of reals that read back to it: halfway to
each neighbour. Below a power of two the lower neighbour is twice as near, so the interval is
narrower on that side.
-/

namespace Gaze

/-- What a binary64 word stands for. -/
inductive Binary64 where
  /-- An undefined value. -/
  | nan
  /-- Infinity of the given sign. -/
  | infinite (negative : Bool)
  /-- The number `± mantissa · 2^exponent`. -/
  | finite (negative : Bool) (mantissa : Nat) (exponent : Int)
  deriving Repr, DecidableEq

namespace Binary64

/-- The meaning of a word. Subnormal fractions are doubled and paired with the exponent of the
smallest normal word less one, so that every mantissa carries the same scale as its hidden
bit. -/
def ofBits (bits : UInt64) : Binary64 :=
  let negative := bits >>> 63 == 1
  let e := ((bits >>> 52) &&& 0x7FF).toNat
  let f := (bits &&& 0xFFFFFFFFFFFFF).toNat
  if e = 2047 then (if f = 0 then .infinite negative else .nan)
  else if e = 0 then .finite negative (2 * f) (-1075)
  else .finite negative (f + Nat.pow 2 52) ((e : Int) - 1075)

/-- The meaning of a float. -/
def ofFloat (x : Float) : Binary64 := ofBits x.toBits

end Binary64

/-- The reals that read back to a nonzero finite word: from `(center - below) · 2^exponent` to
`(center + above) · 2^exponent`, with both ends included when `closed`. -/
structure RoundingInterval where
  /-- The word's magnitude in units of `2^exponent`. -/
  center : Nat
  /-- Distance to the lower end, in the same units. -/
  below : Nat
  /-- Distance to the upper end, in the same units. -/
  above : Nat
  /-- The scale of the units. -/
  exponent : Int
  /-- Whether the ends themselves read back to the word. -/
  closed : Bool
  deriving Repr, DecidableEq

/-- The rounding interval of the magnitude `mantissa · 2^exponent` of a nonzero finite word.
Ends are included when the mantissa is even. A subnormal word (exponent `-1075`) has
neighbours at two units on both sides; a normal word whose mantissa is the hidden bit alone has
its lower neighbour half a unit away. -/
def RoundingInterval.ofMagnitude (mantissa : Nat) (exponent : Int) : RoundingInterval :=
  let closed := mantissa % 2 == 0
  if exponent = -1075 then
    ⟨mantissa, 1, 1, exponent, closed⟩
  else if mantissa = Nat.pow 2 52 then ⟨4 * mantissa, 1, 2, exponent - 2, closed⟩
  else ⟨2 * mantissa, 1, 1, exponent - 1, closed⟩

end Gaze

/-!
Scalars of the gaze geometry.

Vergence, head pose and accuracy are written once, over any type of numbers that has the
operations gathered in `Scalar`. Binary64 floats run them; the real numbers can be given the
same operations to reason about them. Each definition fixes the order of its float operations,
since float addition and multiplication do not reassociate.
-/

namespace Gaze

/-- The arithmetic that the gaze geometry uses: the four operations, negation, decimal
literals, square root, absolute value, the circular functions, order tests and equality. -/
class Scalar (α : Type) extends Add α, Sub α, Mul α, Div α, Neg α, OfScientific α,
    LT α, LE α, BEq α where
  /-- The square root. -/
  sqrt : α → α
  /-- The absolute value. -/
  abs : α → α
  /-- The sine of an angle in radians. -/
  sin : α → α
  /-- The cosine of an angle in radians. -/
  cos : α → α
  /-- The arc cosine, in radians. -/
  acos : α → α
  /-- The ratio of a circle's circumference to its diameter. -/
  pi : α
  /-- Whether a value is an ordinary number, neither infinite nor undefined. -/
  isFinite : α → Bool
  /-- `<` is decidable. -/
  decLt : ∀ a b : α, Decidable (a < b)
  /-- `≤` is decidable. -/
  decLe : ∀ a b : α, Decidable (a ≤ b)

instance instDecidableLtScalar {α : Type} [Scalar α] (a b : α) : Decidable (a < b) :=
  Scalar.decLt a b

instance instDecidableLeScalar {α : Type} [Scalar α] (a b : α) : Decidable (a ≤ b) :=
  Scalar.decLe a b

/-- Binary64 floats, with the circle constant rounded to the nearest float. -/
instance : Scalar Float where
  sqrt := Float.sqrt
  abs := Float.abs
  sin := Float.sin
  cos := Float.cos
  acos := Float.acos
  pi := Float.ofBits 0x400921FB54442D18
  isFinite := Float.isFinite
  decLt := Float.decLt
  decLe := Float.decLe

namespace Scalar

variable {α : Type} [Scalar α]

/-- An angle in degrees, in radians: scaled by the one factor `π / 180`. -/
def toRadians (degrees : α) : α := degrees * (pi / 180.0)

/-- An angle in radians, in degrees: scaled by the one factor `180 / π`. -/
def toDegrees (radians : α) : α := radians * (180.0 / pi)

/-- The value limited to `[lo, hi]`; a value that compares with neither bound is kept. -/
def clamp (lo hi x : α) : α :=
  if x < lo then lo else if hi < x then hi else x

end Scalar

end Gaze

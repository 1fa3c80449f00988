import Gaze.Geometry.Vector
/-!
Closest approach of two lines in space.

The left line is `l0 + μ·l` and the right line `r0 + ν·r`. Setting the difference of the two
points orthogonal to both directions gives two linear equations in `μ` and `ν`; their
determinant is the Gram determinant `(l·l)(r·r) − (r·l)²` of the directions. When it is
smaller in size than a tolerance the lines are taken as parallel and there is no answer.
-/

namespace Gaze

/-- Where two lines come closest: the parameter and the point on each line. -/
structure Approach (α : Type) where
  /-- Parameter of the closest point along the left direction. -/
  muLeft : α
  /-- Parameter of the closest point along the right direction. -/
  muRight : α
  /-- The closest point on the left line. -/
  pointLeft : Vec3 α
  /-- The closest point on the right line. -/
  pointRight : Vec3 α
  deriving Repr

namespace Approach

variable {α : Type} [Scalar α]

/-- The point halfway between the two closest points. -/
def midpoint (a : Approach α) : Vec3 α := (a.pointLeft + a.pointRight) / (2.0 : α)

/-- The distance between the two closest points. -/
def separation (a : Approach α) : α := (a.pointLeft - a.pointRight).norm

/-- The Gram determinant of two directions: zero exactly when they are parallel. -/
def gram (l r : Vec3 α) : α := l.dot l * r.dot r - r.dot l * r.dot l

/-- The closest approach of the lines through `l0` along `l` and through `r0` along `r`, or
`none` when the Gram determinant of the directions is smaller in size than `epsilon`. -/
def find (epsilon : α) (l0 r0 l r : Vec3 α) : Option (Approach α) :=
  let d := l0 - r0
  let dR := d.dot r
  let rL := r.dot l
  let dL := d.dot l
  let rR := r.dot r
  let denom := gram l r
  if Scalar.abs denom < epsilon then none
  else
    let muLeft := (dR * rL - dL * rR) / denom
    let muRight := (dR + rL * muLeft) / rR
    some ⟨muLeft, muRight, l0 + l * muLeft, r0 + r * muRight⟩

end Approach

end Gaze

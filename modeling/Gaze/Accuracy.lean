import Gaze.Error
import Gaze.Geometry.Vector
/-!
Gaze accuracy against a known target.

The expected gaze from an eye origin toward a target is the unit direction to it and its
distance, as long as the target is farther than the float epsilon `2^-52` from the origin. The
error of an observed gaze is the difference of directions, of vergences and of clocks; its angular
size is the angle between the observed and the expected direction, in degrees.
-/

namespace Gaze

/-- The gaze that looks from an origin at a target. -/
structure ExpectedGaze (α : Type) where
  /-- Unit direction toward the target. -/
  direction : Vec3 α
  /-- Distance to the target. -/
  vergence : α
  deriving Repr

/-- How an observed gaze differs from the expected one. -/
structure GazeError (α : Type) where
  /-- Observed direction less expected direction. -/
  direction : Vec3 α
  /-- Observed vergence less expected vergence. -/
  vergence : α
  /-- Device clock less host clock. -/
  clockSkew : α
  deriving Repr

variable {α : Type} [Scalar α]

/-- The distance below which a target is taken to sit on the origin: `2^-52`. -/
def degenerateDistance : α := 2.220446049250313080847263336181640625e-16

/-- The angle between two vectors, in radians; zero when either has length zero. -/
def Vec3.angle (a b : Vec3 α) : α :=
  let prod := a.dot b
  let n1 := a.norm
  let n2 := b.norm
  if n1 == 0.0 || n2 == 0.0 then 0.0
  else Scalar.acos (Scalar.clamp (-1.0) 1.0 (prod / (n1 * n2)))

/-- The expected gaze from `origin` toward `target`. -/
def ExpectedGaze.toward (origin target : Vec3 α) : Except Error (ExpectedGaze α) :=
  let gaze := target - origin
  let distance := gaze.norm
  if distance ≤ degenerateDistance then .error .degenerateTarget
  else .ok ⟨gaze / distance, distance⟩

namespace GazeError

/-- The error of an observed direction and vergence, seen at `deviceTime` on the device and
`hostTime` on the host, against the expected gaze. -/
def between (observedDirection : Vec3 α) (observedVergence deviceTime hostTime : α)
    (expected : ExpectedGaze α) : GazeError α :=
  ⟨observedDirection - expected.direction, observedVergence - expected.vergence,
    deviceTime - hostTime⟩

/-- The angle between the observed direction, rebuilt from the error, and the expected one,
in degrees. -/
def angularErrorDeg (g : GazeError α) (expected : ExpectedGaze α) : α :=
  Scalar.toDegrees (Vec3.angle (g.direction + expected.direction) expected.direction)

end GazeError

end Gaze

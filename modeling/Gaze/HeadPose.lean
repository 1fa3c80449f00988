import Gaze.Geometry.Rotation
import Gaze.Sensor.Sample
/-!
Head pose.

The head-mounted display reports its orientation as three angles in degrees: the first about the
y axis, the second about the x axis, the third about the z axis. Its rotation applies them in
that order, so it is `Rz · Rx · Ry`. A point given relative to the head is placed in the world by
rotating it and adding the head's location.
-/

namespace Gaze

/-- The unit vector along the x axis. -/
def Vec3.unitX {α : Type} [Scalar α] : Vec3 α := ⟨1.0, 0.0, 0.0⟩

/-- The unit vector along the y axis. -/
def Vec3.unitY {α : Type} [Scalar α] : Vec3 α := ⟨0.0, 1.0, 0.0⟩

/-- The unit vector along the z axis. -/
def Vec3.unitZ {α : Type} [Scalar α] : Vec3 α := ⟨0.0, 0.0, 1.0⟩

/-- Where the head is and how it is turned. -/
structure HeadPose (α : Type) where
  /-- The head's location. -/
  location : Vec3 α
  /-- The head's rotation. -/
  rotation : Mat3 α

/-- The eye origins of a sample placed in the world. -/
structure WorldOrigins (α : Type) where
  /-- Origin of the combined gaze. -/
  combined : Vec3 α
  /-- Origin of the left eye. -/
  left : Vec3 α
  /-- Origin of the right eye. -/
  right : Vec3 α

namespace HeadPose

variable {α : Type} [Scalar α]

/-- The rotation of three angles in degrees, about y, then x, then z. -/
def rotationOf (angles : Vec3 α) : Mat3 α :=
  let aboutY := Mat3.axisAngle Vec3.unitY (Scalar.toRadians angles.x)
  let aboutX := Mat3.axisAngle Vec3.unitX (Scalar.toRadians angles.y)
  let aboutZ := Mat3.axisAngle Vec3.unitZ (Scalar.toRadians angles.z)
  aboutZ * aboutX * aboutY

/-- The pose at a location, turned by three angles in degrees. -/
def new (location angles : Vec3 α) : HeadPose α := ⟨location, rotationOf angles⟩

/-- The pose of the display in a sample. -/
def ofSample (s : Sample α) : HeadPose α := new s.headLocation s.headRotation

/-- A head-relative point placed in the world. -/
def worldOrigin (p : HeadPose α) (v : Vec3 α) : Vec3 α := p.location + p.rotation.apply v

/-- The sample's eye origins placed in the world. -/
def eyeOrigins (p : HeadPose α) (s : Sample α) : WorldOrigins α :=
  ⟨p.worldOrigin s.combined.origin, p.worldOrigin s.left.origin, p.worldOrigin s.right.origin⟩

end HeadPose

end Gaze

import Gaze.Geometry.Vector
/-!
Device frame and host frame.

The eye tracker reports positions in centimeters in a frame whose y axis points the other way
from the host's. A position goes to the host frame by negating y and dividing by 100; a
direction has no unit and only has y negated.
-/

namespace Gaze

/-- Centimeters in a meter. -/
def centimetersPerMeter {α : Type} [Scalar α] : α := 100.0

namespace Vec3

variable {α : Type} [Scalar α]

/-- A device position in centimeters, as a host position in meters. -/
def toHost (v : Vec3 α) : Vec3 α := v.flipY / (centimetersPerMeter : α)

end Vec3

end Gaze

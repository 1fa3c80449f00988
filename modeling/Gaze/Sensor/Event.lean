import Gaze.Geometry.Vector
/-!
Eye tracker events.

An event is what the eye tracker reports for one frame, in the device frame and in centimeters:
three clocks, a frame number, the combined gaze of both eyes, each eye on its own, the pose of
the head-mounted display, and the actor in focus if there is one.
-/

namespace Gaze

/-- One eye: its gaze ray and origin, how open it is and where its pupil is, each with its
validity flag. -/
structure Eye (α : Type) where
  /-- Direction of the eye's gaze. -/
  gazeRay : Vec3 α
  /-- Where the gaze starts. -/
  origin : Vec3 α
  /-- Whether the gaze is valid. -/
  gazeValid : Bool
  /-- How far the eye is open, from 0 to 1. -/
  openness : α
  /-- Whether the openness is valid. -/
  opennessValid : Bool
  /-- Where the pupil is in the sensor's image. -/
  pupilPosition : Vec2 α
  /-- Whether the pupil position is valid. -/
  pupilPositionValid : Bool
  /-- The pupil diameter in millimeters. -/
  pupilDiameter : α
  deriving BEq, Repr

/-- One frame of the eye tracker, in the device frame and in centimeters. -/
structure Event (α : Type) where
  /-- The simulator's clock, in seconds. -/
  simulatorTime : α
  /-- The eye tracker's own clock, in seconds. -/
  deviceTime : α
  /-- The simulator's clock when the frame was streamed, in seconds. -/
  streamTime : α
  /-- The eye tracker's frame number. -/
  frame : Int64
  /-- Direction of the combined gaze. -/
  gazeRay : Vec3 α
  /-- Where the combined gaze starts. -/
  origin : Vec3 α
  /-- Whether the combined gaze is valid. -/
  gazeValid : Bool
  /-- The vergence that the tracker measured itself, if any. -/
  vergence : Option α
  /-- Position of the head-mounted display. -/
  headLocation : Vec3 α
  /-- Orientation of the head-mounted display, as three angles in degrees. -/
  headRotation : Vec3 α
  /-- The left eye. -/
  left : Eye α
  /-- The right eye. -/
  right : Eye α
  /-- The name of the actor in focus, if any. -/
  focusName : Option String
  /-- Where the focus ray meets the actor. -/
  focusPoint : Vec3 α
  /-- How far away the actor in focus is. -/
  focusDistance : α
  deriving BEq, Repr

end Gaze

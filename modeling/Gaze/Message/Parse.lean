import Gaze.Message.Fields
import Gaze.Message.Format
/-!
Reading a message line back into its stamp and sample.

The fields are read in a fixed order and the first that fails decides the error: the focus (the
actor's name, and unless it is `None` its point and distance), the clocks and frame number, the
combined gaze, the left eye, the right eye, the head pose, and last the stamp.
-/

namespace Gaze.Message

/-- An eye's fields, with the key suffix `_l` or `_r`. -/
def readEye (f : Fields) (side : String) : Except Error (Eye Float) := do
  let gazeRay ← f.vec3 ("gaze_ray" ++ side)
  let origin ← f.vec3 ("eye_origin" ++ side)
  let gazeValid ← f.flag ("validity_gaze" ++ side)
  let openness ← f.number ("eye_open" ++ side)
  let opennessValid ← f.flag ("validity_eye_open" ++ side)
  let pupilPosition ← f.vec2 ("pupil_posn" ++ side)
  let pupilPositionValid ← f.flag ("validity_pupil_posn" ++ side)
  let pupilDiameter ← f.number ("pupil_diam" ++ side)
  return ⟨gazeRay, origin, gazeValid, openness, opennessValid, pupilPosition, pupilPositionValid,
    pupilDiameter⟩

/-- The stamp and sample of a message line under a delimiter. -/
def parse (line delim : String) : Except Error (Float × Sample Float) := do
  let f ← Fields.split line delim
  let name ← f.text "focus_actor_name"
  let focus : Option (Focus Float) ← if name = noFocus then pure none else do
    let point ← f.vec3 "focus_actor_pt"
    let distance ← f.number "focus_actor_dist"
    pure (some ⟨name, point, distance⟩)
  let simulatorTime ← f.number "t_carla"
  let deviceTime ← f.number "t_sranipal"
  let streamTime ← f.number "t_carla_stream"
  let frame ← f.integer "sr_frameseq"
  let gazeRay ← f.vec3 "gaze_ray"
  let origin ← f.vec3 "eye_origin"
  let vergence ← f.number "vergence"
  let gazeValid ← f.flag "validity_gaze"
  let left ← readEye f "_l"
  let right ← readEye f "_r"
  let headLocation ← f.vec3 "hmd_locn"
  let headRotation ← f.vec3 "hmd_rotn"
  let stamp ← f.number "rosT"
  return (stamp, ⟨simulatorTime, deviceTime, streamTime, frame,
    ⟨gazeRay, origin, vergence, gazeValid⟩, left, right, headLocation, headRotation, focus⟩)

end Gaze.Message

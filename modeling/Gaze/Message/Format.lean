import Gaze.SensorVector
import Gaze.Sensor.Sample
/-!
Writing a sample as a message line.

A message is a sequence of `key=value` pairs, each followed by the delimiter, the last one too.
The keys come in a fixed order: the stamp, the three clocks and the frame number, the combined
gaze, the head pose, the eyes' rays and origins, openness, pupils, the focus and last the
validity flags. Floats are written as the library writes them, vectors in braces, flags as `True`
and `False`, and a sample with no focus names the actor `None` at the zero point and distance.
-/

namespace Gaze.Message

/-- The name written for no actor in focus. -/
def noFocus : String := "None"

/-- A flag as a word. -/
def flagText (b : Bool) : String := if b then "True" else "False"

/-- A signed integer in decimal. -/
def intText (n : Int64) : String :=
  (if n.toInt < 0 then "-" else "") ++ String.ofList (Nat.toDigits 10 n.toInt.natAbs)

/-- The pairs of a message in order: the sample stamped with the publisher's clock. -/
def pairs (s : Sample Float) (stamp : Float) : List (String × String) :=
  let (name, point, distance) := match s.focus with
    | some f => (f.actorName, f.point, f.distance)
    | none => (noFocus, Vec3.zero, 0.0)
  let v3 (v : Vec3 Float) := (SensorVector.spatial v).text
  let v2 (v : Vec2 Float) := (SensorVector.planar v).text
  [("rosT", floatText stamp),
    ("t_carla", floatText s.simulatorTime),
    ("t_sranipal", floatText s.deviceTime),
    ("t_carla_stream", floatText s.streamTime),
    ("sr_frameseq", intText s.frame),
    ("gaze_ray", v3 s.combined.gazeRay),
    ("eye_origin", v3 s.combined.origin),
    ("vergence", floatText s.combined.vergence),
    ("hmd_locn", v3 s.headLocation),
    ("hmd_rotn", v3 s.headRotation),
    ("gaze_ray_l", v3 s.left.gazeRay),
    ("eye_origin_l", v3 s.left.origin),
    ("gaze_ray_r", v3 s.right.gazeRay),
    ("eye_origin_r", v3 s.right.origin),
    ("eye_open_l", floatText s.left.openness),
    ("eye_open_r", floatText s.right.openness),
    ("pupil_posn_l", v2 s.left.pupilPosition),
    ("pupil_posn_r", v2 s.right.pupilPosition),
    ("pupil_diam_l", floatText s.left.pupilDiameter),
    ("pupil_diam_r", floatText s.right.pupilDiameter),
    ("focus_actor_name", name),
    ("focus_actor_pt", v3 point),
    ("focus_actor_dist", floatText distance),
    ("validity_gaze", flagText s.combined.gazeValid),
    ("validity_gaze_l", flagText s.left.gazeValid),
    ("validity_gaze_r", flagText s.right.gazeValid),
    ("validity_eye_open_l", flagText s.left.opennessValid),
    ("validity_eye_open_r", flagText s.right.opennessValid),
    ("validity_pupil_posn_l", flagText s.left.pupilPositionValid),
    ("validity_pupil_posn_r", flagText s.right.pupilPositionValid)]

/-- The message line of a sample stamped with the publisher's clock. -/
def format (s : Sample Float) (stamp : Float) (delim : String) : String :=
  String.join ((pairs s stamp).map fun p => p.1 ++ "=" ++ p.2 ++ delim)

end Gaze.Message

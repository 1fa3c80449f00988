import Gaze.Sensor.Event
import Gaze.Toml.Document
import Gaze.Toml.Decode
/-!
Reading an event from TOML text.

The document's root table holds the event's fields under their record names. The frame number,
the tracker's own vergence and the focus may be left out; every other field is required. Unknown
keys are ignored.
-/

namespace Gaze

open Toml

/-- One eye of an event, from the fields with the given suffix. -/
def Eye.ofToml (es : List (String × Value)) (side : String) : Option (Eye Float) := do
  pure ⟨← required es ("gaze_ray_" ++ side) Value.asVec3,
    ← required es ("eye_origin_" ++ side) Value.asVec3,
    ← required es ("gaze_valid_" ++ side) Value.asBool,
    ← required es ("eye_openness_" ++ side) Value.asFloat,
    ← required es ("eye_openness_valid_" ++ side) Value.asBool,
    ← required es ("pupil_posn_" ++ side) Value.asVec2,
    ← required es ("pupil_posn_valid_" ++ side) Value.asBool,
    ← required es ("pupil_diam_" ++ side) Value.asFloat⟩

/-- The event of a TOML document's root table. -/
def Event.ofToml (es : List (String × Value)) : Option (Event Float) := do
  pure ⟨← required es "timestamp_carla" Value.asFloat,
    ← required es "timestamp_sranipal" Value.asFloat,
    ← required es "timestamp_carla_stream" Value.asFloat,
    ← optional es "frame_sequence" Value.asInt64 0,
    ← required es "gaze_ray" Value.asVec3,
    ← required es "eye_origin" Value.asVec3,
    ← required es "gaze_valid" Value.asBool,
    ← optional es "vergence" (fun v => some <$> v.asFloat) none,
    ← required es "hmd_location" Value.asVec3,
    ← required es "hmd_rotation" Value.asVec3,
    ← Eye.ofToml es "left",
    ← Eye.ofToml es "right",
    ← optional es "focus_actor_name" (fun v => some <$> v.asString) none,
    ← optional es "focus_actor_point" Value.asVec3 Vec3.zero,
    ← optional es "focus_actor_distance" Value.asFloat 0.0⟩

/-- The event written in a TOML text. -/
def Event.load (text : String) : Option (Event Float) := (Toml.parse text).bind Event.ofToml

end Gaze

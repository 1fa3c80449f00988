import Gaze.Sensor.Event
import Gaze.Sensor.Frame
import Gaze.Vergence
/-!
Gaze samples: events in the host frame.

Normalizing an event moves positions to the host frame in meters and reflects the eyes' gaze
directions across the horizontal plane. The combined gaze direction is kept as reported. The
vergence is the one the tracker measured, or else the one estimated from the two eyes' raw
device-frame rays, or undefined when the estimator has none.
-/

namespace Gaze

/-- The combined gaze of both eyes, with its vergence in meters. -/
structure Combined (α : Type) where
  /-- Direction of the combined gaze. -/
  gazeRay : Vec3 α
  /-- Where the combined gaze starts. -/
  origin : Vec3 α
  /-- Distance to the fixation point, in meters. -/
  vergence : α
  /-- Whether the combined gaze is valid. -/
  gazeValid : Bool
  deriving BEq, Repr

/-- The actor in focus: its name, the point where the focus ray meets it, and its distance. -/
structure Focus (α : Type) where
  /-- The actor's name. -/
  actorName : String
  /-- Where the focus ray meets the actor. -/
  point : Vec3 α
  /-- How far away the actor is. -/
  distance : α
  deriving BEq, Repr

/-- One frame of gaze in the host frame. -/
structure Sample (α : Type) where
  /-- The simulator's clock, in seconds. -/
  simulatorTime : α
  /-- The eye tracker's own clock, in seconds. -/
  deviceTime : α
  /-- The simulator's clock when the frame was streamed, in seconds. -/
  streamTime : α
  /-- The eye tracker's frame number. -/
  frame : Int64
  /-- The combined gaze. -/
  combined : Combined α
  /-- The left eye. -/
  left : Eye α
  /-- The right eye. -/
  right : Eye α
  /-- Position of the head-mounted display, in meters. -/
  headLocation : Vec3 α
  /-- Orientation of the head-mounted display, as three angles in degrees. -/
  headRotation : Vec3 α
  /-- The actor in focus, if any. -/
  focus : Option (Focus α)
  deriving BEq, Repr

variable {α : Type} [Scalar α]

/-- An eye in the host frame: its gaze reflected, its origin in meters. -/
def Eye.toHost (e : Eye α) : Eye α :=
  { e with gazeRay := e.gazeRay.flipY, origin := e.origin.toHost }

/-- The sample of an event, with vergence estimated by `est` when the tracker measured none. -/
def Sample.ofEvent (est : Vergence.Estimator α) (e : Event α) : Sample α :=
  let vergence := match e.vergence with
    | some v => v
    | none =>
      (est.estimate e.left.origin e.right.origin e.left.gazeRay e.right.gazeRay).getD (0.0 / 0.0)
  { simulatorTime := e.simulatorTime
    deviceTime := e.deviceTime
    streamTime := e.streamTime
    frame := e.frame
    combined := ⟨e.gazeRay, e.origin.toHost, vergence, e.gazeValid⟩
    left := e.left.toHost
    right := e.right.toHost
    headLocation := e.headLocation.toHost
    headRotation := e.headRotation
    focus := e.focusName.map fun name => ⟨name, e.focusPoint.toHost, e.focusDistance⟩ }

/-- The sample of an event under the default vergence policy. -/
def Sample.normalize (e : Event α) : Sample α := Sample.ofEvent Vergence.Estimator.default e

/-- The samples of events in order, each normalized on its own. -/
def Sample.normalizeAll (es : List (Event α)) : List (Sample α) := es.map Sample.normalize

end Gaze

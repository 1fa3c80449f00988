import Gaze.Sensor.Sample
/-!
Gaze tracking.

A tracker turns events into samples one at a time, with a fixed vergence policy, and remembers
whether gaze is being tracked: before the first event nothing has been seen, and after each
event tracking is on when that event's combined gaze is valid and lost when it is not. It also
keeps the state it had before the last event and the simulator time of the last event, against
which a later event is found out of order; that finding is only reported, never acted on.
Nothing else of the past reaches a sample, so each sample is the event's normalization on its
own.
-/

namespace Gaze

/-- Whether gaze is being tracked. -/
inductive TrackingState where
  /-- No event has been seen. -/
  | noSamplesYet
  /-- The last event had valid gaze. -/
  | ok
  /-- The last event had no valid gaze. -/
  | lost
  deriving Repr, DecidableEq

/-- A tracker: its vergence policy, its state, the state before the last event and the time of
the last event. -/
structure Tracker (α : Type) where
  /-- The vergence policy of every sample. -/
  estimator : Vergence.Estimator α
  /-- The state after the last event. -/
  state : TrackingState
  /-- The state before the last event. -/
  lastState : TrackingState
  /-- The simulator time of the last event, if there was one. -/
  lastTime : Option α

namespace Tracker

variable {α : Type} [Scalar α]

/-- The tracker that has seen nothing yet, with the estimator used when nothing is
configured. -/
def default : Tracker α := ⟨Vergence.Estimator.default, .noSamplesYet, .noSamplesYet, none⟩

/-- A tracker that has seen nothing yet, with its own estimator. -/
def new (est : Vergence.Estimator α) : Tracker α := { default with estimator := est }

/-- The tracker after one event, and the event's sample. -/
def update (t : Tracker α) (e : Event α) : Tracker α × Sample α :=
  let s := Sample.ofEvent t.estimator e
  ({ t with
      lastTime := some e.simulatorTime
      lastState := t.state
      state := if s.combined.gazeValid then .ok else .lost }, s)

/-- The tracker and the sample after each of the events, in order. -/
def run (t : Tracker α) : List (Event α) → List (Tracker α × Sample α)
  | [] => []
  | e :: es =>
    let step := t.update e
    step :: run step.1 es

@[simp] theorem update_estimator (t : Tracker α) (e : Event α) :
    (t.update e).1.estimator = t.estimator := rfl

@[simp] theorem update_lastState (t : Tracker α) (e : Event α) :
    (t.update e).1.lastState = t.state := rfl

@[simp] theorem update_state (t : Tracker α) (e : Event α) :
    (t.update e).1.state = if e.gazeValid then .ok else .lost := rfl

@[simp] theorem update_lastTime (t : Tracker α) (e : Event α) :
    (t.update e).1.lastTime = some e.simulatorTime := rfl

@[simp] theorem update_sample (t : Tracker α) (e : Event α) :
    (t.update e).2 = Sample.ofEvent t.estimator e := rfl

@[simp] theorem length_run (t : Tracker α) (es : List (Event α)) : (t.run es).length = es.length := by
  induction es generalizing t with
  | nil => rfl
  | cons e es ih => simp [run, ih]

end Tracker

end Gaze

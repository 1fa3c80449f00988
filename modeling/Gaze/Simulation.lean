import Gaze.Error
import Gaze.Sensor.Event
import Gaze.Random.Normal
/-!
A simulated eye tracker.

The simulator fixates targets given in the device frame, one event per target, at a fixed event
period. The eyes sit at fixed origins; each gaze ray points from its origin to the target, with
Gaussian noise of a configured deviation added to the unit direction before it is normalized
again. Noise is drawn three values per ray, for the combined gaze, then the left eye, then the
right. The device clock runs five milliseconds behind the simulator's.

The simulator is written over any scalar type and any source of standard normal samples; the
seeded simulator draws them from the ChaCha generator.
-/

namespace Gaze

/-- A simulated tracker: event period, noise deviation, clock, frame number and the state of
its noise source. -/
structure Simulator (α σ : Type) where
  /-- Time between events, in seconds. -/
  period : α
  /-- Standard deviation of the noise added to each coordinate of a unit direction. -/
  noise : α
  /-- The simulator's clock. -/
  time : α
  /-- The last frame number. -/
  frame : Int64
  /-- The state of the noise source. -/
  source : σ

namespace Simulator

variable {α σ : Type} [Scalar α]

/-- Where the combined gaze starts, in centimeters. -/
def combinedOrigin : Vec3 α := ⟨-5.60, 0.14, 1.12⟩

/-- Where the left eye's gaze starts, in centimeters. -/
def leftOrigin : Vec3 α := ⟨-6.308, 3.247, 1.264⟩

/-- Where the right eye's gaze starts, in centimeters. -/
def rightOrigin : Vec3 α := ⟨-5.284, -3.269, 1.014⟩

/-- How far the device clock runs behind, in seconds. -/
def deviceLatency : α := 0.005

/-- A noisy unit direction from an origin to a target, and the simulator after its three
draws. -/
def noisyDirection (draw : σ → α × σ) (sim : Simulator α σ) (origin target : Vec3 α) :
    Vec3 α × Simulator α σ :=
  let (a, s) := draw sim.source
  let (b, s) := draw s
  let (c, s) := draw s
  let jitter : Vec3 α := ⟨0.0 + sim.noise * a, 0.0 + sim.noise * b, 0.0 + sim.noise * c⟩
  (((target - origin).normalize + jitter).normalize, { sim with source := s })

/-- An eye that looks along a ray, open, with its pupil centred. -/
def eye (ray origin : Vec3 α) : Eye α :=
  ⟨ray, origin, true, 1.0, true, ⟨0.5, 0.5⟩, true, 3.5⟩

/-- The event of fixating a target one period later, and the simulator after it. -/
def fixate (draw : σ → α × σ) (sim : Simulator α σ) (target : Vec3 α) :
    Event α × Simulator α σ :=
  let sim := { sim with time := sim.time + sim.period, frame := sim.frame + 1 }
  let (combined, sim) := noisyDirection draw sim combinedOrigin target
  let (left, sim) := noisyDirection draw sim leftOrigin target
  let (right, sim) := noisyDirection draw sim rightOrigin target
  ({ simulatorTime := sim.time
     deviceTime := sim.time - deviceLatency
     streamTime := sim.time
     frame := sim.frame
     gazeRay := combined
     origin := combinedOrigin
     gazeValid := true
     vergence := none
     headLocation := Vec3.zero
     headRotation := Vec3.zero
     left := eye left leftOrigin
     right := eye right rightOrigin
     focusName := none
     focusPoint := Vec3.zero
     focusDistance := 0.0 }, sim)

/-- The events of fixating the targets in order. -/
def run (draw : σ → α × σ) (sim : Simulator α σ) : List (Vec3 α) → List (Event α)
  | [] => []
  | t :: ts =>
    let (e, sim) := fixate draw sim t
    e :: run draw sim ts

/-- A seeded simulator with a positive finite period and a finite non-negative noise. -/
def seeded (seed : UInt64) (period noise : Float) :
    Except Error (Simulator Float Random.Generator) :=
  if !(period.isFinite && period > 0.0) then .error (.config (.nonPositivePeriod period))
  else if !(noise.isFinite && noise ≥ 0.0) then .error (.config (.negativeNoise noise))
  else .ok ⟨period, noise, 0.0, 0, Random.Generator.ofSeed seed⟩

end Simulator

end Gaze

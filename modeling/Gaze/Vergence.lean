import Gaze.Geometry.Approach
import Gaze.Sensor.Frame
/-!
Vergence: how far away the eyes fixate.

The two gaze rays are followed to their closest approach; the vergence is the distance from the
point halfway between the eye origins to the point halfway between the closest points, in
meters. Rays that the tolerance calls parallel have no closest approach: from one origin they
fixate nothing in particular and give 0, from two origins they give the configured fallback, or
no value at all under the strict policy.
-/

namespace Gaze.Vergence

/-- The vergence of parallel rays from distinct origins when nothing is configured: 1 m. -/
def parallelFallback {α : Type} [Scalar α] : α := 1.0

/-- The Gram determinant below which rays are parallel when nothing is configured. -/
def parallelEpsilon {α : Type} [Scalar α] : α := 1e-8

/-- The vergence policy as configured: the parallel tolerance, the value for parallel rays,
whether to refuse that value, and how many input units make a meter. -/
structure Config (α : Type) where
  /-- Gram determinants smaller than this mark parallel rays. -/
  parallelEpsilon : α
  /-- The vergence of parallel rays from distinct origins. -/
  parallelFallback : α
  /-- Whether parallel rays from distinct origins have no vergence at all. -/
  strict : Bool
  /-- Input units per meter. -/
  unitsPerMeter : α
  deriving Repr

/-- The default policy: tolerance `1e-8`, fallback 1 m, not strict, centimeters. -/
def Config.default {α : Type} [Scalar α] : Config α := ⟨1e-8, 1.0, false, 100.0⟩

/-- A policy ready to estimate: the tolerance, the answer for parallel rays from distinct
origins, and the unit. -/
structure Estimator (α : Type) where
  /-- Gram determinants smaller than this mark parallel rays. -/
  epsilon : α
  /-- The answer for parallel rays from distinct origins. -/
  fallback : Option α
  /-- Input units per meter. -/
  unitsPerMeter : α

namespace Estimator

variable {α : Type} [Scalar α]

/-- The estimator of a configured policy: strict policies have no fallback. -/
def ofConfig (c : Config α) : Estimator α :=
  ⟨c.parallelEpsilon, if c.strict then none else some c.parallelFallback, c.unitsPerMeter⟩

/-- The estimator used when nothing is configured: the fixed tolerance and fallback, and
centimeters. -/
def default : Estimator α := ⟨parallelEpsilon, some parallelFallback, centimetersPerMeter⟩

/-- The vergence of the rays from `l0` along `l` and from `r0` along `r`, in meters. -/
def estimate (e : Estimator α) (l0 r0 l r : Vec3 α) : Option α :=
  let originMid := (l0 + r0) / (2.0 : α)
  match Approach.find e.epsilon l0 r0 l r with
  | some a => some ((a.midpoint - originMid).norm / e.unitsPerMeter)
  | none => if l0 == r0 then some 0.0 else e.fallback

end Estimator

/-- The vergence under the default policy, and 1 m when it has none. -/
def ofRays {α : Type} [Scalar α] (l0 r0 l r : Vec3 α) : α :=
  (Estimator.default.estimate l0 r0 l r).getD parallelFallback

end Gaze.Vergence

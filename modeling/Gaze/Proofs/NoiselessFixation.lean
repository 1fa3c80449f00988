import Gaze.Proofs.RealGeometry
import Gaze.Simulation
import Gaze.Tracker

/-! A noiseless simulator is exact, read in exact arithmetic. Earlier fixations change the clock,
the frame number and the noise source but never the noise, so a simulator started without noise
stays without it. Without noise each eye's ray is the unit direction from its origin to the
target. The tracker's sample then reflects the rays into the host frame and moves the origins
there, the display's zero pose leaves them in place, and the expected gaze from each eye's world
origin toward the target in the host frame has exactly the sample's direction. The device clock
runs five milliseconds behind. The vergence is the distance in meters from halfway between the
eyes to the target, unless the two rays are parallel for the default tolerance, where it is the
default fallback of one meter. -/

namespace Gaze

open Vec3

namespace Simulator

variable {σ : Type} (draw : σ → ℝ × σ)

theorem fixate_noise (sim : Simulator ℝ σ) (target : Vec3 ℝ) :
    (fixate draw sim target).2.noise = sim.noise := rfl

theorem foldl_fixate_noise (sim : Simulator ℝ σ) (targets : List (Vec3 ℝ)) :
    (targets.foldl (fun sim t => (fixate draw sim t).2) sim).noise = sim.noise := by
  induction targets generalizing sim with
  | nil => rfl
  | cons t ts ih => rw [List.foldl_cons, ih, fixate_noise]

/-- Without noise a ray is the unit direction from its origin to the target, whatever is drawn. -/
theorem noisyDirection_noiseless {sim : Simulator ℝ σ} (h : sim.noise = 0)
    {origin target : Vec3 ℝ} (hn : (target - origin).norm ≠ 0) :
    (noisyDirection draw sim origin target).1 = (target - origin).normalize := by
  simp only [noisyDirection, h]
  -- the jitter is zero, and a unit direction normalizes to itself
  refine (congrArg Vec3.normalize ?_).trans (normalize_of_norm_eq_one (norm_normalize hn))
  ext <;> simp only [add_x, add_y, add_z] <;> norm_num

theorem fixate_left_gazeRay {sim : Simulator ℝ σ} (h : sim.noise = 0) {target : Vec3 ℝ}
    (hn : (target - leftOrigin).norm ≠ 0) :
    (fixate draw sim target).1.left.gazeRay = (target - leftOrigin).normalize := by
  refine noisyDirection_noiseless draw ?_ hn
  exact h

theorem fixate_right_gazeRay {sim : Simulator ℝ σ} (h : sim.noise = 0) {target : Vec3 ℝ}
    (hn : (target - rightOrigin).norm ≠ 0) :
    (fixate draw sim target).1.right.gazeRay = (target - rightOrigin).normalize := by
  refine noisyDirection_noiseless draw ?_ hn
  exact h

end Simulator

open Simulator

/-- What fixating `target` gives, checked against the target: the tracker built from the default
configuration returns the event's normalized sample; against the expected gaze from each eye's
world origin toward the target in the host frame, the sample's direction has no error and the
clocks are five milliseconds apart; and the vergence is the expected one from halfway between
the eyes, or the fallback when the eyes' rays are parallel for the default tolerance. -/
def FixationAccurate {σ : Type} (draw : σ → ℝ × σ) (sim : Simulator ℝ σ) (target : Vec3 ℝ) :
    Prop :=
  let e := (fixate draw sim target).1
  let s := ((Tracker.new (Vergence.Estimator.ofConfig Vergence.Config.default)).update e).2
  let w := (HeadPose.ofSample s).eyeOrigins s
  s = Sample.normalize e ∧
  (∃ g, ExpectedGaze.toward w.left target.toHost = .ok g ∧
    (GazeError.between s.left.gazeRay s.combined.vergence s.deviceTime s.simulatorTime g).direction =
      Vec3.zero ∧
    (GazeError.between s.left.gazeRay s.combined.vergence s.deviceTime s.simulatorTime g).clockSkew =
      -0.005) ∧
  (∃ g, ExpectedGaze.toward w.right target.toHost = .ok g ∧
    (GazeError.between s.right.gazeRay s.combined.vergence s.deviceTime s.simulatorTime g).direction =
      Vec3.zero ∧
    (GazeError.between s.right.gazeRay s.combined.vergence s.deviceTime s.simulatorTime g).clockSkew =
      -0.005) ∧
  (∃ g, ExpectedGaze.toward ((w.left + w.right) / (2.0 : ℝ)) target.toHost = .ok g ∧
    s.combined.vergence =
      if |Approach.gram (target - leftOrigin).normalize (target - rightOrigin).normalize| <
        Vergence.parallelEpsilon then Vergence.parallelFallback else g.vergence)

/-- A simulator started without noise fixates exactly, after any earlier fixations, every target
farther than a hundred float epsilons from each eye and from halfway between them. -/
theorem fixate_noiseless_accurate {σ : Type} (draw : σ → ℝ × σ) (sim0 : Simulator ℝ σ)
    (hnoise : sim0.noise = 0) (earlier : List (Vec3 ℝ)) (target : Vec3 ℝ)
    (hL : 100 * degenerateDistance < (target - leftOrigin).norm)
    (hR : 100 * degenerateDistance < (target - rightOrigin).norm)
    (hM : 100 * degenerateDistance <
      (target - ((leftOrigin : Vec3 ℝ) + rightOrigin) / (2.0 : ℝ)).norm) :
    FixationAccurate draw (earlier.foldl (fun sim t => (fixate draw sim t).2) sim0) target := by
  unfold FixationAccurate
  intro e s w
  have hsim := (foldl_fixate_noise draw sim0 earlier).trans hnoise
  have hpos : ∀ {x : ℝ}, 100 * degenerateDistance < x → 0 < x := fun h =>
    lt_of_le_of_lt (by norm_num [degenerateDistance]) h
  have hleft := fixate_left_gazeRay draw hsim (hpos hL).ne'
  have hright := fixate_right_gazeRay draw hsim (hpos hR).ne'
  -- the display reports no location and no rotation, so the world is the host frame
  have hwl : w.left = leftOrigin.toHost := HeadPose.worldOrigin_zero _
  have hwr : w.right = rightOrigin.toHost := HeadPose.worldOrigin_zero _
  have hskew : s.deviceTime - s.simulatorTime = -0.005 := by
    show e.simulatorTime - deviceLatency - e.simulatorTime = _
    norm_num [deviceLatency]
  refine ⟨rfl, ?_, ?_, ?_⟩
  · rw [hwl]
    refine ⟨_, ExpectedGaze.toward_toHost hL, ?_, hskew⟩
    show e.left.gazeRay.flipY - _ = _
    rw [hleft]
    ext <;> norm_num [Vec3.zero]
  · rw [hwr]
    refine ⟨_, ExpectedGaze.toward_toHost hR, ?_, hskew⟩
    show e.right.gazeRay.flipY - _ = _
    rw [hright]
    ext <;> norm_num [Vec3.zero]
  · rw [hwl, hwr, toHost_midpoint]
    refine ⟨_, ExpectedGaze.toward_toHost hM, ?_⟩
    -- the tracker estimates the vergence from the event's rays in the device frame
    have hverg : s.combined.vergence = (Vergence.Estimator.default.estimate leftOrigin rightOrigin
        (target - leftOrigin).normalize (target - rightOrigin).normalize).getD (0.0 / 0.0) := by
      show (Vergence.Estimator.default.estimate e.left.origin e.right.origin e.left.gazeRay
        e.right.gazeRay).getD (0.0 / 0.0) = _
      rw [hleft, hright]
      rfl
    rw [hverg]
    split_ifs with hpar
    · rw [Vergence.Estimator.estimate_of_parallel _ hpar
        (by norm_num [leftOrigin, rightOrigin, BEq.beq])]
      rfl
    · -- both rays pass through the target, which is where they come closest
      rw [Vergence.Estimator.estimate_of_meet _ (by norm_num [Vergence.Estimator.default,
          Vergence.parallelEpsilon]) (not_lt.mp hpar)
          (add_normalize_mul_norm (hpos hL).ne') (add_normalize_mul_norm (hpos hR).ne')]
      norm_num [Vergence.Estimator.default, centimetersPerMeter]

/-- The pipeline's own check: a noiseless simulator at 90 Hz fixating a point five meters
ahead. -/
theorem fixate_noiseless_five_meters :
    FixationAccurate (fun u : Unit => ((0 : ℝ), u)) ⟨1 / 90, 0, 0, 0, ()⟩ ⟨500, 80, -20⟩ :=
  fixate_noiseless_accurate _ _ rfl [] _
    (lt_norm_of_sq_lt (by norm_num [degenerateDistance])
      (by norm_num [dot_def, leftOrigin, degenerateDistance]))
    (lt_norm_of_sq_lt (by norm_num [degenerateDistance])
      (by norm_num [dot_def, rightOrigin, degenerateDistance]))
    (lt_norm_of_sq_lt (by norm_num [degenerateDistance])
      (by norm_num [dot_def, leftOrigin, rightOrigin, degenerateDistance]))

end Gaze

import Mathlib.Geometry.Euclidean.Angle.Unoriented.Basic
import Mathlib.Analysis.InnerProductSpace.PiL2
import Gaze.Proofs.RigidMotion

/-! The accuracy check against a known target, read in exact arithmetic.

A vector of the gaze geometry is read as a point of Mathlib's Euclidean space, where the dot
product is the inner product and the length is the norm, so the angle between two directions can
be Mathlib's unoriented angle. The code measures the angle its own way: zero when either vector
has length zero, else the arc cosine of the cosine limited to `[-1, 1]`. The limit changes no arc
cosine, and against the expected unit direction the code's angle is the Euclidean angle to the
target. The error rebuilds the observed direction exactly, so the angular error is that angle in
degrees; Mathlib's description of the angles zero and π then says when the error is 0 and 180. -/

namespace Gaze

open Vec3

namespace Vec3

/-- A vector as a point of Euclidean space. -/
noncomputable def toEuclidean (v : Vec3 ℝ) : EuclideanSpace ℝ (Fin 3) :=
  (EuclideanSpace.equiv (Fin 3) ℝ).symm v.coords

theorem inner_toEuclidean (a b : Vec3 ℝ) : inner ℝ a.toEuclidean b.toEuclidean = a.dot b := by
  simp [toEuclidean, coords, PiLp.inner_apply, Fin.sum_univ_three, dot_def]
  ring

theorem norm_toEuclidean (v : Vec3 ℝ) : ‖v.toEuclidean‖ = v.norm := by
  rw [EuclideanSpace.norm_eq, norm_def, dot_self_eq]
  simp [toEuclidean, coords, Fin.sum_univ_three]

theorem smul_toEuclidean (v : Vec3 ℝ) (r : ℝ) : r • v.toEuclidean = (v * r).toEuclidean := by
  ext i
  fin_cases i <;> simp [toEuclidean, coords, mul_comm]

theorem toEuclidean_injective : Function.Injective toEuclidean := by
  intro a b h
  have hc : a.coords = b.coords := congrArg WithLp.ofLp h
  ext
  · exact congrFun hc 0
  · exact congrFun hc 1
  · exact congrFun hc 2

theorem toEuclidean_zero : (⟨0, 0, 0⟩ : Vec3 ℝ).toEuclidean = 0 := by
  ext i
  fin_cases i <;> simp [toEuclidean, coords]

theorem toEuclidean_eq_zero_iff (v : Vec3 ℝ) : v.toEuclidean = 0 ↔ v = ⟨0, 0, 0⟩ := by
  rw [← toEuclidean_zero, toEuclidean_injective.eq_iff]

theorem norm_eq_zero_iff (v : Vec3 ℝ) : v.norm = 0 ↔ v = ⟨0, 0, 0⟩ := by
  rw [← norm_toEuclidean, norm_eq_zero, toEuclidean_eq_zero_iff]

end Vec3

theorem degenerateDistance_eq : (degenerateDistance : ℝ) = 2 ^ (-52 : ℤ) := by
  norm_num [degenerateDistance]

theorem Scalar.toDegrees_eq (x : ℝ) : Scalar.toDegrees x = x * (180 / Real.pi) := by
  show x * (180.0 / Real.pi) = _
  norm_num

theorem arccos_clamp (x : ℝ) : Real.arccos (Scalar.clamp (-1.0) 1.0 x) = Real.arccos x := by
  simp only [Scalar.clamp]
  split_ifs with h1 h2
  · norm_num at h1 ⊢
    exact (Real.arccos_of_le_neg_one h1.le).symm
  · norm_num at h2 ⊢
    exact (Real.arccos_of_one_le h2.le).symm
  · rfl

@[simp] theorem Scalar.acos_real (x : ℝ) : Scalar.acos x = Real.arccos x := rfl

namespace Vec3

theorem angle_zero_left (w : Vec3 ℝ) : Vec3.angle ⟨0, 0, 0⟩ w = 0 := by
  have hn : (⟨0, 0, 0⟩ : Vec3 ℝ).norm = 0 := (norm_eq_zero_iff _).mpr rfl
  simp only [Vec3.angle, hn]
  norm_num

/-- Against a nonzero direction, read through its unit vector, the angle of a nonzero vector is
the angle of Euclidean geometry. -/
theorem angle_normalize {d w : Vec3 ℝ} (hd : d ≠ ⟨0, 0, 0⟩) (hw : w.norm ≠ 0) :
    Vec3.angle d w.normalize = InnerProductGeometry.angle d.toEuclidean w.toEuclidean := by
  have hdn : d.norm ≠ 0 := fun h => hd ((norm_eq_zero_iff d).mp h)
  have hwn : w.normalize.norm = 1 := norm_normalize hw
  have hdot : d.dot w.normalize = d.dot w / w.norm := by
    simp only [normalize, dot_def, div_x, div_y, div_z]
    ring
  have hguard : (d.norm == (0.0 : ℝ) || w.normalize.norm == (0.0 : ℝ)) = false := by
    rw [hwn, Bool.or_eq_false_iff, beq_eq_false_iff_ne, beq_eq_false_iff_ne]
    norm_num
    exact hdn
  simp only [Vec3.angle, hguard, Bool.false_eq_true, if_false, Scalar.acos_real, arccos_clamp]
  rw [InnerProductGeometry.angle, inner_toEuclidean, norm_toEuclidean, norm_toEuclidean, hwn, hdot,
    mul_one, div_div, mul_comm w.norm]

section Normalized

variable {w : Vec3 ℝ} (hw : w.norm ≠ 0)
include hw

theorem toEuclidean_ne_zero : w.toEuclidean ≠ 0 := fun h =>
  hw ((norm_eq_zero_iff w).mpr ((toEuclidean_eq_zero_iff w).mp h))

theorem angle_normalize_nonneg (d : Vec3 ℝ) : 0 ≤ Vec3.angle d w.normalize := by
  by_cases hd : d = ⟨0, 0, 0⟩
  · rw [hd, angle_zero_left]
  · rw [angle_normalize hd hw]
    exact InnerProductGeometry.angle_nonneg _ _

theorem angle_normalize_le_pi (d : Vec3 ℝ) : Vec3.angle d w.normalize ≤ Real.pi := by
  by_cases hd : d = ⟨0, 0, 0⟩
  · rw [hd, angle_zero_left]
    exact Real.pi_pos.le
  · rw [angle_normalize hd hw]
    exact InnerProductGeometry.angle_le_pi _ _

/-- The angle is zero exactly for the zero vector and the positive multiples of the direction. -/
theorem angle_normalize_eq_zero_iff (d : Vec3 ℝ) :
    Vec3.angle d w.normalize = 0 ↔ d = ⟨0, 0, 0⟩ ∨ ∃ r : ℝ, 0 < r ∧ d = w * r := by
  by_cases hd : d = ⟨0, 0, 0⟩
  · simp only [hd, angle_zero_left, true_or]
  · rw [angle_normalize hd hw, InnerProductGeometry.angle_comm,
      InnerProductGeometry.angle_eq_zero_iff]
    simp only [hd, false_or, toEuclidean_ne_zero hw, ne_eq, not_false_eq_true, true_and,
      smul_toEuclidean, toEuclidean_injective.eq_iff]

/-- The angle is a straight angle exactly for the negative multiples of the direction. -/
theorem angle_normalize_eq_pi_iff (d : Vec3 ℝ) :
    Vec3.angle d w.normalize = Real.pi ↔ ∃ r : ℝ, r < 0 ∧ d = w * r := by
  by_cases hd : d = ⟨0, 0, 0⟩
  · -- the zero vector has angle zero, and is no negative multiple of a nonzero direction
    rw [hd, angle_zero_left]
    refine ⟨fun h => absurd h.symm Real.pi_ne_zero, ?_⟩
    rintro ⟨r, hr, hzero⟩
    have h0 : r • w.toEuclidean = 0 := by
      rw [smul_toEuclidean, ← hzero, toEuclidean_zero]
    exact ((smul_eq_zero.mp h0).elim hr.ne (toEuclidean_ne_zero hw)).elim
  · rw [angle_normalize hd hw, InnerProductGeometry.angle_comm,
      InnerProductGeometry.angle_eq_pi_iff]
    simp only [toEuclidean_ne_zero hw, ne_eq, not_false_eq_true, true_and,
      smul_toEuclidean, toEuclidean_injective.eq_iff]

end Normalized

end Vec3

theorem ExpectedGaze.toward_eq_error_iff (o T : Vec3 ℝ) :
    ExpectedGaze.toward o T = .error .degenerateTarget ↔ (T - o).norm ≤ degenerateDistance := by
  by_cases h : (T - o).norm ≤ degenerateDistance
  · simp only [ExpectedGaze.toward, h, if_true]
  · simp only [ExpectedGaze.toward, h, if_false, reduceCtorEq]

namespace GazeError

variable (d : Vec3 ℝ) (v td th : ℝ) (e : ExpectedGaze ℝ)

theorem between_direction_add : (between d v td th e).direction + e.direction = d := by
  ext <;> simp only [between, add_x, add_y, add_z, sub_x, sub_y, sub_z, sub_add_cancel]

theorem add_between_direction : e.direction + (between d v td th e).direction = d := by
  ext <;> simp only [between, add_x, add_y, add_z, sub_x, sub_y, sub_z, add_sub_cancel]

theorem between_vergence_add : e.vergence + (between d v td th e).vergence = v := by
  simp only [between, add_sub_cancel]

/-- The angular error is the angle between the observed direction itself and the expected one:
the observed direction is rebuilt exactly from the error. -/
theorem angularErrorDeg_between :
    (between d v td th e).angularErrorDeg e = Vec3.angle d e.direction * (180 / Real.pi) := by
  rw [angularErrorDeg, between_direction_add, Scalar.toDegrees_eq]

end GazeError

theorem mul_degrees_eq_straight_iff (x : ℝ) : x * (180 / Real.pi) = 180 ↔ x = Real.pi := by
  rw [mul_div_assoc', div_eq_iff Real.pi_ne_zero, mul_comm x]
  exact mul_right_inj' (by norm_num : (180 : ℝ) ≠ 0)

/-- The accuracy check against a target, in exact arithmetic. The expected gaze from `o` toward
`T` is refused exactly when the target lies within `2^-52` of the origin; otherwise it is the unit
direction and the distance to the target, which reach it. The error of any observation gives the
observation back from the expected gaze, its clock skew is the difference of the clocks, and its
angular error lies between 0 and 180 degrees: it is the angle in degrees between the observed
direction and `T - o`, zero exactly for the zero direction and the positive multiples of `T - o`,
and 180 exactly for the negative multiples. -/
theorem ExpectedGaze.accuracyCheck (o T : Vec3 ℝ) :
    (ExpectedGaze.toward o T = .error .degenerateTarget ↔ (T - o).norm ≤ 2 ^ (-52 : ℤ)) ∧
    ((2 : ℝ) ^ (-52 : ℤ) < (T - o).norm → ∃ e, ExpectedGaze.toward o T = .ok e ∧
      e.direction.norm = 1 ∧ e.vergence = (T - o).norm ∧ o + e.direction * e.vergence = T ∧
      ∀ (d : Vec3 ℝ) (v td th : ℝ),
        let g := GazeError.between d v td th e
        d = e.direction + g.direction ∧ v = e.vergence + g.vergence ∧ g.clockSkew = td - th ∧
        0 ≤ g.angularErrorDeg e ∧ g.angularErrorDeg e ≤ 180 ∧
        (d ≠ ⟨0, 0, 0⟩ → g.angularErrorDeg e =
          InnerProductGeometry.angle d.toEuclidean (T - o).toEuclidean * (180 / Real.pi)) ∧
        (g.angularErrorDeg e = 0 ↔ d = ⟨0, 0, 0⟩ ∨ ∃ r : ℝ, 0 < r ∧ d = (T - o) * r) ∧
        (g.angularErrorDeg e = 180 ↔ ∃ r : ℝ, r < 0 ∧ d = (T - o) * r)) := by
  rw [← degenerateDistance_eq]
  refine ⟨ExpectedGaze.toward_eq_error_iff o T, fun hlt => ?_⟩
  have hw : (T - o).norm ≠ 0 := (lt_of_le_of_lt (by norm_num [degenerateDistance]) hlt).ne'
  refine ⟨⟨(T - o).normalize, (T - o).norm⟩, ExpectedGaze.toward_of_lt hlt, norm_normalize hw, rfl,
    add_normalize_mul_norm hw, fun d v td th => ?_⟩
  have hdeg := GazeError.angularErrorDeg_between d v td th ⟨(T - o).normalize, (T - o).norm⟩
  have hscale : (0 : ℝ) < 180 / Real.pi := div_pos (by norm_num) Real.pi_pos
  refine ⟨(GazeError.add_between_direction d v td th _).symm,
    (GazeError.between_vergence_add d v td th _).symm, rfl, ?_, ?_, ?_, ?_, ?_⟩
  · rw [hdeg]
    exact mul_nonneg (angle_normalize_nonneg hw d) hscale.le
  · -- an angle of at most π radians is at most 180 degrees
    rw [hdeg]
    calc Vec3.angle d (T - o).normalize * (180 / Real.pi)
        ≤ Real.pi * (180 / Real.pi) := mul_le_mul_of_nonneg_right (angle_normalize_le_pi hw d)
          hscale.le
      _ = 180 := mul_div_cancel₀ 180 Real.pi_ne_zero
  · intro hd
    rw [hdeg, angle_normalize hd hw]
  · rw [hdeg, mul_eq_zero, or_iff_left hscale.ne']
    exact angle_normalize_eq_zero_iff hw d
  · rw [hdeg, mul_degrees_eq_straight_iff]
    exact angle_normalize_eq_pi_iff hw d

end Gaze

import Mathlib.Analysis.SpecialFunctions.Trigonometric.Inverse
import Gaze.Accuracy
import Gaze.HeadPose
import Gaze.Vergence

/-! The gaze geometry read in exact arithmetic. The real numbers carry the operations of a scalar,
so every definition written over scalars can be evaluated on them; this module gathers what those
definitions do there. A normalized direction has length one and normalizes to itself; reflecting
and scaling a vector scale its length as expected. Two lines that meet and are not parallel in the
sense of the Gram determinant come closest exactly where they meet, so the vergence of two rays
toward one point is the distance to that point from halfway between the origins. A head pose with
no location and no rotation places every point where it is, and the expected gaze between two
device positions is, in the host frame, the device direction reflected at the device distance in
meters. -/

namespace Gaze

/-- The real numbers as scalars: exact arithmetic, with every value finite. -/
noncomputable instance : Scalar ℝ where
  sqrt := Real.sqrt
  abs := fun x => |x|
  sin := Real.sin
  cos := Real.cos
  acos := Real.arccos
  pi := Real.pi
  isFinite := fun _ => true
  decLt := inferInstance
  decLe := inferInstance

attribute [ext] Vec3

namespace Vec3

section Coordinates

variable {α : Type} [Scalar α]

@[simp] theorem mul_x (a : Vec3 α) (s : α) : (a * s).x = a.x * s := rfl
@[simp] theorem mul_y (a : Vec3 α) (s : α) : (a * s).y = a.y * s := rfl
@[simp] theorem mul_z (a : Vec3 α) (s : α) : (a * s).z = a.z * s := rfl
@[simp] theorem div_x (a : Vec3 α) (s : α) : (a / s).x = a.x / s := rfl
@[simp] theorem div_y (a : Vec3 α) (s : α) : (a / s).y = a.y / s := rfl
@[simp] theorem div_z (a : Vec3 α) (s : α) : (a / s).z = a.z / s := rfl
@[simp] theorem flipY_x (a : Vec3 α) : a.flipY.x = a.x := rfl
@[simp] theorem flipY_y (a : Vec3 α) : a.flipY.y = -a.y := rfl
@[simp] theorem flipY_z (a : Vec3 α) : a.flipY.z = a.z := rfl

end Coordinates

theorem dot_def (a b : Vec3 ℝ) : a.dot b = a.x * b.x + a.y * b.y + a.z * b.z := rfl

theorem dot_self_eq (v : Vec3 ℝ) : v.dot v = v.x ^ 2 + v.y ^ 2 + v.z ^ 2 := by
  rw [dot_def]
  ring

theorem dot_self_nonneg (v : Vec3 ℝ) : 0 ≤ v.dot v := by
  rw [dot_self_eq]
  positivity

theorem norm_def (v : Vec3 ℝ) : v.norm = Real.sqrt (v.dot v) := rfl

theorem norm_mul_self (v : Vec3 ℝ) : v.norm * v.norm = v.dot v :=
  Real.mul_self_sqrt (dot_self_nonneg v)

theorem lt_norm_of_sq_lt {v : Vec3 ℝ} {c : ℝ} (hc : 0 ≤ c) (h : c ^ 2 < v.dot v) : c < v.norm :=
  (Real.lt_sqrt hc).mpr h

theorem dot_normalize_self {v : Vec3 ℝ} (h : v.norm ≠ 0) : v.normalize.dot v.normalize = 1 := by
  have hsq := norm_mul_self v
  simp only [normalize, dot_def, div_x, div_y, div_z] at hsq ⊢
  field_simp
  linarith

theorem norm_normalize {v : Vec3 ℝ} (h : v.norm ≠ 0) : v.normalize.norm = 1 := by
  rw [norm_def, dot_normalize_self h, Real.sqrt_one]

theorem normalize_of_norm_eq_one {v : Vec3 ℝ} (h : v.norm = 1) : v.normalize = v := by
  ext <;> simp [normalize, h]

theorem norm_flipY (v : Vec3 ℝ) : v.flipY.norm = v.norm := by
  simp only [norm_def, dot_def, flipY_x, flipY_y, flipY_z, neg_mul_neg]

theorem norm_div {v : Vec3 ℝ} {c : ℝ} (hc : 0 < c) : (v / c).norm = v.norm / c := by
  have hdot : (v / c).dot (v / c) = v.dot v / c ^ 2 := by
    simp only [dot_def, div_x, div_y, div_z]
    field_simp
  rw [norm_def, norm_def, hdot, Real.sqrt_div' _ (sq_nonneg c), Real.sqrt_sq hc.le]

/-- Walking from `o` toward `t` for the distance between them reaches `t`. -/
theorem add_normalize_mul_norm {o t : Vec3 ℝ} (h : (t - o).norm ≠ 0) :
    o + (t - o).normalize * (t - o).norm = t := by
  ext <;> simp only [add_x, add_y, add_z, mul_x, mul_y, mul_z, normalize, div_x, div_y, div_z,
    sub_x, sub_y, sub_z] <;> field_simp <;> ring

theorem toHost_sub_toHost (a b : Vec3 ℝ) : a.toHost - b.toHost = (a - b).flipY / (100 : ℝ) := by
  ext <;> simp only [toHost, sub_x, sub_y, sub_z, div_x, div_y, div_z, flipY_x, flipY_y, flipY_z,
    centimetersPerMeter] <;> norm_num <;> ring

theorem toHost_midpoint (a b : Vec3 ℝ) :
    (a.toHost + b.toHost) / (2.0 : ℝ) = ((a + b) / (2.0 : ℝ)).toHost := by
  ext <;> simp only [toHost, add_x, add_y, add_z, div_x, div_y, div_z, flipY_x, flipY_y, flipY_z,
    centimetersPerMeter] <;> norm_num <;> ring

end Vec3

open Vec3

/-! ### Closest approach and vergence -/

namespace Approach

theorem gram_def (l r : Vec3 ℝ) : gram l r = l.dot l * r.dot r - r.dot l * r.dot l := rfl

theorem dot_self_ne_zero_of_gram {l r : Vec3 ℝ} (h : gram l r ≠ 0) : r.dot r ≠ 0 := by
  intro hr
  have hx : r.x = 0 ∧ r.y = 0 ∧ r.z = 0 := by
    rw [dot_self_eq] at hr
    refine ⟨?_, ?_, ?_⟩ <;> nlinarith [sq_nonneg r.x, sq_nonneg r.y, sq_nonneg r.z]
  apply h
  rw [gram_def, hr]
  simp only [dot_def, hx.1, hx.2.1, hx.2.2]
  ring

/-- Lines that meet at a point and are not parallel come closest there, at the parameters that
reach it. -/
theorem find_of_meet {ε : ℝ} {l0 r0 l r t : Vec3 ℝ} {a b : ℝ} (hε : 0 < ε)
    (hgram : ε ≤ |gram l r|) (hl : l0 + l * a = t) (hr : r0 + r * b = t) :
    find ε l0 r0 l r = some ⟨a, b, t, t⟩ := by
  have hg : gram l r ≠ 0 := fun h => by
    rw [h, abs_zero] at hgram
    linarith
  have hrr := dot_self_ne_zero_of_gram hg
  have hl0 : l0 = t - l * a := by
    rw [← hl]
    ext <;> simp
  have hr0 : r0 = t - r * b := by
    rw [← hr]
    ext <;> simp
  -- the two normal equations, solved at the meeting point
  have hmu : ((l0 - r0).dot r * r.dot l - (l0 - r0).dot l * r.dot r) / gram l r = a := by
    rw [div_eq_iff hg, gram_def, hl0, hr0]
    simp only [dot_def, sub_x, sub_y, sub_z, mul_x, mul_y, mul_z]
    ring
  have hnu : ((l0 - r0).dot r + r.dot l * a) / r.dot r = b := by
    rw [div_eq_iff hrr, hl0, hr0]
    simp only [dot_def, sub_x, sub_y, sub_z, mul_x, mul_y, mul_z]
    ring
  have hlt : ¬Scalar.abs (gram l r) < ε := not_lt.mpr hgram
  simp only [find, hlt, if_false, hmu, hnu, hl, hr]

end Approach

namespace Vergence.Estimator

/-- The vergence of two rays that meet: the distance from halfway between the origins to the
meeting point, in meters. -/
theorem estimate_of_meet (est : Estimator ℝ) {l0 r0 l r t : Vec3 ℝ} {a b : ℝ}
    (hε : 0 < est.epsilon) (hgram : est.epsilon ≤ |Approach.gram l r|) (hl : l0 + l * a = t)
    (hr : r0 + r * b = t) :
    est.estimate l0 r0 l r = some ((t - (l0 + r0) / (2.0 : ℝ)).norm / est.unitsPerMeter) := by
  have hmid : (Approach.midpoint ⟨a, b, t, t⟩ : Vec3 ℝ) = t := by
    ext <;> simp only [Approach.midpoint, add_x, add_y, add_z, div_x, div_y, div_z] <;> norm_num
  simp only [estimate, Approach.find_of_meet hε hgram hl hr, hmid]

/-- Rays the tolerance calls parallel, from distinct origins, have the fallback vergence. -/
theorem estimate_of_parallel (est : Estimator ℝ) {l0 r0 l r : Vec3 ℝ}
    (hgram : |Approach.gram l r| < est.epsilon) (hne : (l0 == r0) = false) :
    est.estimate l0 r0 l r = est.fallback := by
  have hlt : Scalar.abs (Approach.gram l r) < est.epsilon := hgram
  simp only [estimate, Approach.find, hlt, if_true, hne]
  rfl

end Vergence.Estimator

/-! ### Head pose and expected gaze -/

namespace Mat3

theorem apply_mul (a b : Mat3 ℝ) (v : Vec3 ℝ) : (a * b).apply v = a.apply (b.apply v) := by
  show (mul a b).apply v = _
  ext <;> simp only [apply, mul, col0, col1, col2, dot_def] <;> ring

theorem apply_identity (v : Vec3 ℝ) : identity.apply v = v := by
  ext <;> simp only [apply, identity, dot_def] <;> norm_num

end Mat3

/-- A display at the origin with no rotation places every head-relative point where it is: each
of the three rotations is by a zero angle, so each is the identity. -/
theorem HeadPose.worldOrigin_zero (v : Vec3 ℝ) :
    (HeadPose.new Vec3.zero.toHost Vec3.zero).worldOrigin v = v := by
  have hrot : HeadPose.rotationOf (Vec3.zero : Vec3 ℝ) =
      Mat3.identity * Mat3.identity * Mat3.identity := by
    simp only [HeadPose.rotationOf, Mat3.axisAngle, Vec3.zero, Scalar.toRadians]
    norm_num
  simp only [HeadPose.worldOrigin, HeadPose.new, hrot, Mat3.apply_mul, Mat3.apply_identity]
  ext <;> simp only [add_x, add_y, add_z, toHost, flipY, div_x, div_y, div_z, Vec3.zero] <;>
    norm_num

theorem ExpectedGaze.toward_of_lt {origin target : Vec3 ℝ}
    (h : degenerateDistance < (target - origin).norm) :
    ExpectedGaze.toward origin target =
      .ok ⟨(target - origin) / (target - origin).norm, (target - origin).norm⟩ := by
  simp only [ExpectedGaze.toward, not_le.mpr h, if_false]

/-- The expected gaze between two device positions, seen in the host frame: the device direction
reflected, at the device distance in meters. -/
theorem ExpectedGaze.toward_toHost {o t : Vec3 ℝ} (h : 100 * degenerateDistance < (t - o).norm) :
    ExpectedGaze.toward o.toHost t.toHost = .ok ⟨(t - o).normalize.flipY, (t - o).norm / 100⟩ := by
  have hpos : 0 < (t - o).norm := lt_of_le_of_lt (by norm_num [degenerateDistance]) h
  have hnorm : (t.toHost - o.toHost).norm = (t - o).norm / 100 := by
    rw [toHost_sub_toHost, Vec3.norm_div (by norm_num), norm_flipY]
  rw [ExpectedGaze.toward_of_lt (by rw [hnorm]; linarith), hnorm, toHost_sub_toHost]
  congr 2
  ext <;> simp only [div_x, div_y, div_z, flipY_x, flipY_y, flipY_z, Vec3.normalize, sub_x, sub_y,
    sub_z] <;> field_simp

end Gaze

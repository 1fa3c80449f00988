import Mathlib.LinearAlgebra.UnitaryGroup
import Mathlib.LinearAlgebra.Matrix.Determinant.Basic
import Gaze.Proofs.RealGeometry

/-! Head poses are rigid motions, read in exact arithmetic.

A 3×3 matrix of the gaze geometry is read as a matrix of Mathlib, so that orthogonality, the
determinant and the special orthogonal group are Mathlib's own. Each of the three turns of a head
pose is Rodrigues' matrix about a coordinate axis, and that is the usual rotation about the axis at
every angle, the zero angle included, where the code takes the identity instead. Proper rotations
form a group, so the pose's rotation `Rz · Rx · Ry` is one: orthogonal with determinant one.
Placing head-relative points in the world then keeps every distance and the signed volume of every
tetrahedron, so the eyes of a sample keep their distances, and a pose with zero angles only
translates. -/

namespace Gaze

open Vec3 Matrix

attribute [ext] Mat3

@[simp] theorem Scalar.sin_real (x : ℝ) : Scalar.sin x = Real.sin x := rfl
@[simp] theorem Scalar.cos_real (x : ℝ) : Scalar.cos x = Real.cos x := rfl

namespace Vec3

/-- The coordinates of a vector, as a function on their three indices. -/
def coords (v : Vec3 ℝ) : Fin 3 → ℝ := ![v.x, v.y, v.z]

theorem dot_eq_dotProduct (a b : Vec3 ℝ) : a.dot b = a.coords ⬝ᵥ b.coords := by
  simp [dot_def, coords, dotProduct, Fin.sum_univ_three]

/-- The signed volume of the parallelepiped on three vectors: the determinant of the matrix with
them as rows. -/
def volume (u v w : Vec3 ℝ) : ℝ := !![u.x, u.y, u.z; v.x, v.y, v.z; w.x, w.y, w.z].det

end Vec3

namespace Mat3

/-- A matrix as a matrix of Mathlib, by rows. -/
def toMatrix (m : Mat3 ℝ) : Matrix (Fin 3) (Fin 3) ℝ :=
  !![m.row0.x, m.row0.y, m.row0.z; m.row1.x, m.row1.y, m.row1.z; m.row2.x, m.row2.y, m.row2.z]

theorem coords_apply (m : Mat3 ℝ) (v : Vec3 ℝ) : (m.apply v).coords = m.toMatrix *ᵥ v.coords := by
  ext i
  fin_cases i <;> simp [toMatrix, apply, coords, dot_def, mulVec, dotProduct, Fin.sum_univ_three]

theorem toMatrix_mul (a b : Mat3 ℝ) : (a * b).toMatrix = a.toMatrix * b.toMatrix := by
  show (mul a b).toMatrix = _
  ext i j
  fin_cases i <;> fin_cases j <;>
    simp [toMatrix, mul, col0, col1, col2, dot_def, Matrix.mul_apply, Fin.sum_univ_three]

theorem apply_sub (m : Mat3 ℝ) (a b : Vec3 ℝ) : m.apply (a - b) = m.apply a - m.apply b := by
  ext <;> simp only [apply, dot_def, sub_x, sub_y, sub_z] <;> ring

theorem apply_add (m : Mat3 ℝ) (a b : Vec3 ℝ) : m.apply (a + b) = m.apply a + m.apply b := by
  ext <;> simp only [apply, dot_def, add_x, add_y, add_z] <;> ring

theorem apply_mul_scalar (m : Mat3 ℝ) (v : Vec3 ℝ) (s : ℝ) : m.apply (v * s) = m.apply v * s := by
  ext <;> simp only [apply, dot_def, mul_x, mul_y, mul_z] <;> ring

section Orthogonal

variable {q : Mat3 ℝ} (hq : q.toMatrix ∈ orthogonalGroup (Fin 3) ℝ)
include hq

/-- An orthogonal matrix keeps dot products. -/
theorem dot_apply_apply (u v : Vec3 ℝ) : (q.apply u).dot (q.apply v) = u.dot v := by
  have h : q.toMatrixᵀ * q.toMatrix = 1 := (mem_orthogonalGroup_iff' (Fin 3) ℝ).mp hq
  rw [dot_eq_dotProduct, dot_eq_dotProduct, coords_apply, coords_apply, dotProduct_mulVec,
    ← vecMul_transpose, vecMul_vecMul, h, vecMul_one]

theorem norm_apply (v : Vec3 ℝ) : (q.apply v).norm = v.norm := by
  rw [norm_def, norm_def, dot_apply_apply hq]

theorem apply_injective : Function.Injective q.apply := by
  intro u v huv
  have h0 : (u - v).dot (u - v) = 0 := by
    rw [← dot_apply_apply hq, apply_sub, huv]
    simp only [dot_def, sub_x, sub_y, sub_z, sub_self, mul_zero, add_zero]
  rw [dot_self_eq] at h0
  simp only [sub_x, sub_y, sub_z] at h0
  ext <;> nlinarith [sq_nonneg (u.x - v.x), sq_nonneg (u.y - v.y), sq_nonneg (u.z - v.z)]

end Orthogonal

/-- The rotation by `θ` radians about the x axis. -/
noncomputable def rotX (θ : ℝ) : Mat3 ℝ :=
  ⟨⟨1, 0, 0⟩, ⟨0, Real.cos θ, -Real.sin θ⟩, ⟨0, Real.sin θ, Real.cos θ⟩⟩

/-- The rotation by `θ` radians about the y axis. -/
noncomputable def rotY (θ : ℝ) : Mat3 ℝ :=
  ⟨⟨Real.cos θ, 0, Real.sin θ⟩, ⟨0, 1, 0⟩, ⟨-Real.sin θ, 0, Real.cos θ⟩⟩

/-- The rotation by `θ` radians about the z axis. -/
noncomputable def rotZ (θ : ℝ) : Mat3 ℝ :=
  ⟨⟨Real.cos θ, -Real.sin θ, 0⟩, ⟨Real.sin θ, Real.cos θ, 0⟩, ⟨0, 0, 1⟩⟩

theorem toMatrix_identity : (identity : Mat3 ℝ).toMatrix = 1 := by
  ext i j
  fin_cases i <;> fin_cases j <;> simp [toMatrix, identity] <;> norm_num

theorem axisAngle_zero (u : Vec3 ℝ) : axisAngle u 0 = identity := by
  have hb : ((0 : ℝ) == (0.0 : ℝ)) = true := by
    rw [beq_iff_eq]
    norm_num
  simp only [axisAngle, hb, if_true]

theorem beq_zero_eq_false {θ : ℝ} (h : θ ≠ 0) : (θ == (0.0 : ℝ)) = false := by
  rw [beq_eq_false_iff_ne]
  norm_num
  exact h

/-- Rodrigues' matrix about a unit axis is a proper rotation at every angle. -/
theorem axisAngle_mem {u : Vec3 ℝ} (hu : u.dot u = 1) (θ : ℝ) :
    (axisAngle u θ).toMatrix ∈ specialOrthogonalGroup (Fin 3) ℝ := by
  by_cases h0 : θ = 0
  · rw [h0, axisAngle_zero, toMatrix_identity]
    exact one_mem _
  · have h := Real.sin_sq_add_cos_sq θ
    rw [dot_def] at hu
    simp only [axisAngle, beq_zero_eq_false h0, Bool.false_eq_true, if_false]
    rw [mem_specialOrthogonalGroup_iff, mem_orthogonalGroup_iff']
    -- every entry of the two identities vanishes modulo `|u| = 1` and `sin² + cos² = 1`
    constructor
    · ext i j
      fin_cases i <;> fin_cases j <;>
        simp [toMatrix, Matrix.mul_apply, Fin.sum_univ_three] <;> norm_num <;> grind
    · simp [det_fin_three, toMatrix]
      norm_num
      grind

theorem axisAngle_unitX (θ : ℝ) : axisAngle Vec3.unitX θ = rotX θ := by
  by_cases h : θ = 0
  · rw [h, axisAngle_zero]
    ext <;> simp [identity, rotX] <;> norm_num
  · simp only [axisAngle, beq_zero_eq_false h, Bool.false_eq_true, if_false]
    ext <;> simp [Vec3.unitX, rotX] <;> norm_num

theorem axisAngle_unitY (θ : ℝ) : axisAngle Vec3.unitY θ = rotY θ := by
  by_cases h : θ = 0
  · rw [h, axisAngle_zero]
    ext <;> simp [identity, rotY] <;> norm_num
  · simp only [axisAngle, beq_zero_eq_false h, Bool.false_eq_true, if_false]
    ext <;> simp [Vec3.unitY, rotY] <;> norm_num

theorem axisAngle_unitZ (θ : ℝ) : axisAngle Vec3.unitZ θ = rotZ θ := by
  by_cases h : θ = 0
  · rw [h, axisAngle_zero]
    ext <;> simp [identity, rotZ] <;> norm_num
  · simp only [axisAngle, beq_zero_eq_false h, Bool.false_eq_true, if_false]
    ext <;> simp [Vec3.unitZ, rotZ] <;> norm_num

end Mat3

theorem volume_apply (m : Mat3 ℝ) (u v w : Vec3 ℝ) :
    volume (m.apply u) (m.apply v) (m.apply w) = m.toMatrix.det * volume u v w := by
  have h : !![(m.apply u).x, (m.apply u).y, (m.apply u).z; (m.apply v).x, (m.apply v).y,
      (m.apply v).z; (m.apply w).x, (m.apply w).y, (m.apply w).z] =
      !![u.x, u.y, u.z; v.x, v.y, v.z; w.x, w.y, w.z] * m.toMatrixᵀ := by
    ext i j
    fin_cases i <;> fin_cases j <;>
      simp [Mat3.toMatrix, Mat3.apply, dot_def, Matrix.mul_apply, Fin.sum_univ_three] <;> ring
  rw [volume, h, det_mul, det_transpose, mul_comm]
  rfl

theorem Scalar.toRadians_eq (x : ℝ) : Scalar.toRadians x = x * (Real.pi / 180) := by
  show x * (Real.pi / 180.0) = _
  norm_num

namespace HeadPose

/-- The rotation of three angles in degrees is the turn about y, then about x, then about z. -/
theorem rotationOf_eq (angles : Vec3 ℝ) :
    rotationOf angles = Mat3.rotZ (angles.z * (Real.pi / 180)) *
      Mat3.rotX (angles.y * (Real.pi / 180)) * Mat3.rotY (angles.x * (Real.pi / 180)) := by
  simp only [rotationOf, Mat3.axisAngle_unitX, Mat3.axisAngle_unitY, Mat3.axisAngle_unitZ,
    Scalar.toRadians_eq]

theorem rotationOf_mem (angles : Vec3 ℝ) :
    (rotationOf angles).toMatrix ∈ specialOrthogonalGroup (Fin 3) ℝ := by
  have hx : unitX.dot unitX = (1 : ℝ) := by norm_num [unitX, dot_def]
  have hy : unitY.dot unitY = (1 : ℝ) := by norm_num [unitY, dot_def]
  have hz : unitZ.dot unitZ = (1 : ℝ) := by norm_num [unitZ, dot_def]
  simp only [rotationOf, Mat3.toMatrix_mul]
  exact mul_mem (mul_mem (Mat3.axisAngle_mem hz _) (Mat3.axisAngle_mem hx _))
    (Mat3.axisAngle_mem hy _)

theorem det_rotationOf (angles : Vec3 ℝ) : (rotationOf angles).toMatrix.det = 1 :=
  (mem_specialOrthogonalGroup_iff.mp (rotationOf_mem angles)).2

theorem worldOrigin_sub_worldOrigin (p : HeadPose ℝ) (a b : Vec3 ℝ) :
    p.worldOrigin a - p.worldOrigin b = p.rotation.apply (a - b) := by
  rw [Mat3.apply_sub]
  ext <;> simp only [worldOrigin, add_x, add_y, add_z, sub_x, sub_y, sub_z] <;> ring

variable (location angles : Vec3 ℝ)

theorem norm_worldOrigin_sub (a b : Vec3 ℝ) :
    ((new location angles).worldOrigin a - (new location angles).worldOrigin b).norm =
      (a - b).norm := by
  rw [worldOrigin_sub_worldOrigin]
  exact Mat3.norm_apply (rotationOf_mem angles).1 _

theorem volume_worldOrigin_sub (p0 p1 p2 p3 : Vec3 ℝ) :
    volume ((new location angles).worldOrigin p1 - (new location angles).worldOrigin p0)
        ((new location angles).worldOrigin p2 - (new location angles).worldOrigin p0)
        ((new location angles).worldOrigin p3 - (new location angles).worldOrigin p0) =
      volume (p1 - p0) (p2 - p0) (p3 - p0) := by
  simp only [worldOrigin_sub_worldOrigin, volume_apply]
  rw [show (new location angles).rotation = rotationOf angles from rfl, det_rotationOf, one_mul]

theorem worldOrigin_zero_angles (p : Vec3 ℝ) :
    (new location ⟨0, 0, 0⟩).worldOrigin p = location + p := by
  have hrot : (rotationOf (⟨0, 0, 0⟩ : Vec3 ℝ)).apply p = p := by
    rw [rotationOf_eq, Mat3.apply_mul, Mat3.apply_mul]
    ext <;> simp [Mat3.rotX, Mat3.rotY, Mat3.rotZ, Mat3.apply, dot_def]
  simp only [worldOrigin, new, hrot]

/-- A head pose is a rigid motion. Its rotation is a proper rotation, the turn about y, then about
x, then about z, each by its angle in degrees; placing head-relative points in the world keeps
every distance and the signed volume of every tetrahedron, so the three eye origins of any sample
keep their distances; and with zero angles a point is only moved by the location. -/
theorem new_rigidMotion :
    (rotationOf angles).toMatrix ∈ specialOrthogonalGroup (Fin 3) ℝ ∧
    rotationOf angles = Mat3.rotZ (angles.z * (Real.pi / 180)) *
      Mat3.rotX (angles.y * (Real.pi / 180)) * Mat3.rotY (angles.x * (Real.pi / 180)) ∧
    (∀ a b : Vec3 ℝ, ((new location angles).worldOrigin a -
      (new location angles).worldOrigin b).norm = (a - b).norm) ∧
    (∀ p0 p1 p2 p3 : Vec3 ℝ,
      volume ((new location angles).worldOrigin p1 - (new location angles).worldOrigin p0)
        ((new location angles).worldOrigin p2 - (new location angles).worldOrigin p0)
        ((new location angles).worldOrigin p3 - (new location angles).worldOrigin p0) =
      volume (p1 - p0) (p2 - p0) (p3 - p0)) ∧
    (∀ s : Sample ℝ,
      (((new location angles).eyeOrigins s).left - ((new location angles).eyeOrigins s).right).norm =
        (s.left.origin - s.right.origin).norm ∧
      (((new location angles).eyeOrigins s).combined -
        ((new location angles).eyeOrigins s).left).norm = (s.combined.origin - s.left.origin).norm ∧
      (((new location angles).eyeOrigins s).combined -
        ((new location angles).eyeOrigins s).right).norm =
        (s.combined.origin - s.right.origin).norm) ∧
    ∀ p : Vec3 ℝ, (new location ⟨0, 0, 0⟩).worldOrigin p = location + p := by
  refine ⟨rotationOf_mem angles, rotationOf_eq angles, norm_worldOrigin_sub location angles,
    volume_worldOrigin_sub location angles, fun s => ?_, worldOrigin_zero_angles location⟩
  -- the world eye origins are the sample's eye origins, each placed by the pose
  exact ⟨norm_worldOrigin_sub location angles _ _, norm_worldOrigin_sub location angles _ _,
    norm_worldOrigin_sub location angles _ _⟩

end HeadPose

end Gaze

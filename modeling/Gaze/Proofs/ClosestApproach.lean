import Gaze.Proofs.RealGeometry

/-! The closest approach of two lines, read in exact arithmetic.

By Lagrange's identity the Gram determinant of two directions is the squared length of their
cross product, so it is never negative and vanishes on parallel directions; the tolerance test on
its size is then a test on the determinant itself. Past the test the two parameters solve the
normal equations, so the segment between the closest points is orthogonal to both directions.
Any other pair of points on the two lines differs from the closest pair by a vector spanned by
the directions, which is orthogonal to that segment. By Pythagoras the other pair is at least as
far apart, and strictly farther unless it is the closest pair itself, because a positive Gram
determinant makes the directions independent. -/

namespace Gaze

open Vec3

namespace Vec3

theorem dot_comm (a b : Vec3 ℝ) : a.dot b = b.dot a := by
  simp only [dot_def]
  ring

theorem sub_dot (a b c : Vec3 ℝ) : (a - b).dot c = a.dot c - b.dot c := by
  simp only [dot_def, sub_x, sub_y, sub_z]
  ring

theorem mul_dot (a c : Vec3 ℝ) (s : ℝ) : (a * s).dot c = s * a.dot c := by
  simp only [dot_def, mul_x, mul_y, mul_z]
  ring

/-- Pythagoras: orthogonal vectors add their squared lengths. -/
theorem dot_self_add_of_dot_eq_zero {a b : Vec3 ℝ} (h : a.dot b = 0) :
    (a + b).dot (a + b) = a.dot a + b.dot b := by
  have hexp : (a + b).dot (a + b) = a.dot a + b.dot b + 2 * a.dot b := by
    simp only [dot_def, add_x, add_y, add_z]
    ring
  rw [hexp, h]
  ring

theorem norm_le_norm_of_dot_self_le {a b : Vec3 ℝ} (h : a.dot a ≤ b.dot b) : a.norm ≤ b.norm :=
  Real.sqrt_le_sqrt h

theorem dot_self_eq_of_norm_eq {a b : Vec3 ℝ} (h : a.norm = b.norm) : a.dot a = b.dot b := by
  rw [← norm_mul_self a, ← norm_mul_self b, h]

end Vec3

namespace Approach

theorem gram_comm (l r : Vec3 ℝ) : gram l r = gram r l := by
  simp only [gram_def, dot_comm l r]
  ring

/-- Lagrange's identity: the Gram determinant is the squared length of the cross product. -/
theorem gram_eq_cross (l r : Vec3 ℝ) :
    gram l r = (l.y * r.z - l.z * r.y) ^ 2 + (l.z * r.x - l.x * r.z) ^ 2 +
      (l.x * r.y - l.y * r.x) ^ 2 := by
  simp only [gram_def, dot_def]
  ring

theorem gram_nonneg (l r : Vec3 ℝ) : 0 ≤ gram l r := by
  rw [gram_eq_cross]
  positivity

theorem dot_self_ne_zero_of_gram_left {l r : Vec3 ℝ} (h : gram l r ≠ 0) : l.dot l ≠ 0 :=
  dot_self_ne_zero_of_gram (by rwa [gram_comm])

/-- Dependent directions have a zero cross product, hence a zero Gram determinant. -/
theorem gram_eq_zero_of_dependent {l r : Vec3 ℝ} {a b : ℝ} (hab : a ≠ 0 ∨ b ≠ 0)
    (h : l * a + r * b = ⟨0, 0, 0⟩) : gram l r = 0 := by
  have hx : l.x * a + r.x * b = 0 := congrArg Vec3.x h
  have hy : l.y * a + r.y * b = 0 := congrArg Vec3.y h
  have hz : l.z * a + r.z * b = 0 := congrArg Vec3.z h
  -- each coordinate of the cross product vanishes once multiplied by `a`, and once by `b`
  have hcross : ∀ c : ℝ, c * a = 0 → c * b = 0 → c = 0 := fun c hca hcb => by
    rcases hab with ha | hb
    · exact (mul_eq_zero.mp hca).resolve_right ha
    · exact (mul_eq_zero.mp hcb).resolve_right hb
  have h1 : l.y * r.z - l.z * r.y = 0 :=
    hcross _ (by linear_combination r.z * hy - r.y * hz) (by linear_combination l.y * hz - l.z * hy)
  have h2 : l.z * r.x - l.x * r.z = 0 :=
    hcross _ (by linear_combination r.x * hz - r.z * hx) (by linear_combination l.z * hx - l.x * hz)
  have h3 : l.x * r.y - l.y * r.x = 0 :=
    hcross _ (by linear_combination r.y * hx - r.x * hy) (by linear_combination l.x * hy - l.y * hx)
  rw [gram_eq_cross, h1, h2, h3]
  ring

/-- Independence in the form the minimality needs: a combination of two directions with a
positive Gram determinant has length zero only with zero coefficients. -/
theorem eq_zero_of_dot_self_combination {l r : Vec3 ℝ} (hg : 0 < gram l r) {s t : ℝ}
    (h : (l * s - r * t).dot (l * s - r * t) = 0) : s = 0 ∧ t = 0 := by
  have hll := dot_self_ne_zero_of_gram_left hg.ne'
  -- completing the square in `s`
  have hsq : l.dot l * (l * s - r * t).dot (l * s - r * t) =
      (s * l.dot l - t * r.dot l) ^ 2 + t ^ 2 * gram l r := by
    simp only [gram_def, dot_def, sub_x, sub_y, sub_z, mul_x, mul_y, mul_z]
    ring
  rw [h, mul_zero] at hsq
  have ht2 : t ^ 2 * gram l r = 0 :=
    le_antisymm (by linarith [sq_nonneg (s * l.dot l - t * r.dot l)])
      (mul_nonneg (sq_nonneg t) hg.le)
  have ht : t = 0 := (pow_eq_zero_iff two_ne_zero).mp ((mul_eq_zero.mp ht2).resolve_right hg.ne')
  subst ht
  simp only [zero_mul, sub_zero, ne_eq, OfNat.ofNat_ne_zero, not_false_eq_true, zero_pow,
    add_zero] at hsq
  exact ⟨(mul_eq_zero.mp ((pow_eq_zero_iff two_ne_zero).mp hsq.symm)).resolve_right hll, rfl⟩

/-! ### What the search returns -/

variable {ε : ℝ} {l0 r0 l r : Vec3 ℝ}

/-- Lines are refused exactly when their Gram determinant is below the tolerance. -/
theorem find_eq_none_iff : find ε l0 r0 l r = none ↔ gram l r < ε := by
  have habs : Scalar.abs (gram l r) = gram l r := abs_of_nonneg (gram_nonneg l r)
  by_cases h : gram l r < ε
  · have h' : Scalar.abs (gram l r) < ε := by rwa [habs]
    simp only [find, h', if_true, h]
  · have h' : ¬Scalar.abs (gram l r) < ε := by rwa [habs]
    simp only [find, h', if_false, h, reduceCtorEq]

/-- Lines whose Gram determinant reaches the tolerance have an answer. -/
theorem exists_find_eq_some (h : ε ≤ gram l r) : ∃ a, find ε l0 r0 l r = some a :=
  Option.ne_none_iff_exists'.mp fun hn => not_lt.mpr h (find_eq_none_iff.mp hn)

/-- What an answer is made of: the Gram determinant passed the tolerance, the parameters are the
two quotients, and the points are reached from the origins at those parameters. -/
theorem eq_of_find_eq_some {a : Approach ℝ} (h : find ε l0 r0 l r = some a) :
    ε ≤ gram l r ∧
    a.muLeft = ((l0 - r0).dot r * r.dot l - (l0 - r0).dot l * r.dot r) / gram l r ∧
    a.muRight = ((l0 - r0).dot r + r.dot l * a.muLeft) / r.dot r ∧
    a.pointLeft = l0 + l * a.muLeft ∧ a.pointRight = r0 + r * a.muRight := by
  have hle : ε ≤ gram l r := not_lt.mp fun hlt => by
    rw [find_eq_none_iff.mpr hlt] at h
    cases h
  have hlt : ¬Scalar.abs (gram l r) < ε := by
    rw [show Scalar.abs (gram l r) = gram l r from abs_of_nonneg (gram_nonneg l r)]
    exact not_lt.mpr hle
  simp only [find, hlt, if_false, Option.some.injEq] at h
  subst h
  exact ⟨hle, rfl, rfl, rfl, rfl⟩

/-- How the vector between a point of each line pairs with any vector. -/
theorem dot_between (μ ν : ℝ) (v : Vec3 ℝ) :
    ((l0 + l * μ) - (r0 + r * ν)).dot v = (l0 - r0).dot v + μ * l.dot v - ν * r.dot v := by
  simp only [dot_def, add_x, add_y, add_z, sub_x, sub_y, sub_z, mul_x, mul_y, mul_z]
  ring

/-- The normal equations: the segment between the closest points is orthogonal to both
directions. -/
theorem dot_separation_eq_zero (hε : 0 < ε) {a : Approach ℝ} (h : find ε l0 r0 l r = some a) :
    (a.pointLeft - a.pointRight).dot l = 0 ∧ (a.pointLeft - a.pointRight).dot r = 0 := by
  obtain ⟨hle, hmu, hnu, hpl, hpr⟩ := eq_of_find_eq_some h
  have hg : gram l r ≠ 0 := (lt_of_lt_of_le hε hle).ne'
  have hrr := dot_self_ne_zero_of_gram hg
  -- the two quotients, multiplied out
  have hmu' : a.muLeft * (l.dot l * r.dot r - r.dot l * r.dot l) =
      (l0 - r0).dot r * r.dot l - (l0 - r0).dot l * r.dot r := by
    rw [hmu, ← gram_def]
    exact div_mul_cancel₀ _ hg
  have hnu' : a.muRight * r.dot r = (l0 - r0).dot r + r.dot l * a.muLeft := by
    rw [hnu]
    exact div_mul_cancel₀ _ hrr
  rw [hpl, hpr, dot_between, dot_between, dot_comm l r]
  constructor
  · apply mul_right_cancel₀ hrr
    linear_combination (-(r.dot l)) * hnu' + hmu'
  · linear_combination -hnu'

/-- The closest points are nearer to each other than any other point of the left line is to any
point of the right line, and only the closest pair is that near. -/
theorem separation_le (hε : 0 < ε) {a : Approach ℝ} (h : find ε l0 r0 l r = some a) (μ ν : ℝ) :
    a.separation ≤ ((l0 + l * μ) - (r0 + r * ν)).norm ∧
    (a.separation = ((l0 + l * μ) - (r0 + r * ν)).norm →
      l0 + l * μ = a.pointLeft ∧ r0 + r * ν = a.pointRight) := by
  obtain ⟨hle, -, -, hpl, hpr⟩ := eq_of_find_eq_some h
  obtain ⟨hwl, hwr⟩ := dot_separation_eq_zero hε h
  -- the other pair is the closest pair moved by `u`, a combination of the directions
  set w := a.pointLeft - a.pointRight
  set u := l * (μ - a.muLeft) - r * (ν - a.muRight)
  have hsplit : (l0 + l * μ) - (r0 + r * ν) = w + u := by
    simp only [w, u, hpl, hpr]
    ext <;> simp only [add_x, add_y, add_z, sub_x, sub_y, sub_z, mul_x, mul_y, mul_z] <;> ring
  have horth : w.dot u = 0 := by
    rw [dot_comm, sub_dot, mul_dot, mul_dot, dot_comm l, dot_comm r, hwl, hwr]
    ring
  have hpyth := dot_self_add_of_dot_eq_zero horth
  rw [hsplit]
  refine ⟨norm_le_norm_of_dot_self_le (by rw [hpyth]; linarith [dot_self_nonneg u]), ?_⟩
  intro heq
  have hu : u.dot u = 0 := by
    have := dot_self_eq_of_norm_eq heq
    rw [hpyth] at this
    linarith
  obtain ⟨hs, ht⟩ := eq_zero_of_dot_self_combination (lt_of_lt_of_le hε hle) hu
  constructor
  · rw [hpl, sub_eq_zero.mp hs]
  · rw [hpr, sub_eq_zero.mp ht]

/-- Everything the closest approach of two lines promises, at one tolerance: the Gram
determinant is never negative; no answer comes exactly when it is below the tolerance, so never
for dependent directions; an answer's points lie on their lines, the segment between them is
orthogonal to both directions, and it is the shortest segment between the lines and the only
one that short. -/
def FindsClosest (ε : ℝ) (l0 r0 l r : Vec3 ℝ) : Prop :=
  0 ≤ gram l r ∧
  (find ε l0 r0 l r = none ↔ gram l r < ε) ∧
  (∀ s t : ℝ, (s ≠ 0 ∨ t ≠ 0) → l * s + r * t = ⟨0, 0, 0⟩ → find ε l0 r0 l r = none) ∧
  ∀ a, find ε l0 r0 l r = some a →
    a.pointLeft = l0 + l * a.muLeft ∧ a.pointRight = r0 + r * a.muRight ∧
    (a.pointLeft - a.pointRight).dot l = 0 ∧ (a.pointLeft - a.pointRight).dot r = 0 ∧
    ∀ μ ν : ℝ, a.separation ≤ ((l0 + l * μ) - (r0 + r * ν)).norm ∧
      (a.separation = ((l0 + l * μ) - (r0 + r * ν)).norm →
        l0 + l * μ = a.pointLeft ∧ r0 + r * ν = a.pointRight)

/-- The closest approach is correct at every positive tolerance, for all lines. -/
theorem findsClosest (hε : 0 < ε) (l0 r0 l r : Vec3 ℝ) : FindsClosest ε l0 r0 l r := by
  refine ⟨gram_nonneg l r, find_eq_none_iff, ?_, ?_⟩
  · intro s t hst hdep
    rw [find_eq_none_iff, gram_eq_zero_of_dependent hst hdep]
    exact hε
  · intro a h
    obtain ⟨-, -, -, hpl, hpr⟩ := eq_of_find_eq_some h
    exact ⟨hpl, hpr, (dot_separation_eq_zero hε h).1, (dot_separation_eq_zero hε h).2,
      separation_le hε h⟩

/-- The library's own skew lines: the x axis, and a parallel to the y axis lifted by 2. -/
theorem findsClosest_skew_axes :
    (0 : ℝ) < 1e-8 ∧ FindsClosest 1e-8 ⟨0, 0, 0⟩ ⟨5, -4, 2⟩ ⟨1, 0, 0⟩ ⟨0, 1, 0⟩ :=
  ⟨by norm_num, findsClosest (by norm_num) _ _ _ _⟩

end Approach

end Gaze

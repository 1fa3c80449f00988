import Gaze.Proofs.RigidMotion
import Gaze.Proofs.VergenceEstimate

/-! The vergence estimate sees neither which eye is which nor the frame, read in exact arithmetic.

Swapping the eyes swaps the two lines. Their Gram determinant stays the same, so the tolerance
decides the same way. Past it, the normal equations solved from the other line give the same two
closest points in the other order, so their midpoint is the same; and identical origins stay
identical. A similarity of space (an orthogonal matrix, a positive scale and a shift) keeps the dot
products of directions, so again the determinant stays the same. It multiplies both parameters and
the measured distance by its scale, which a unit scaled alike cancels. Both facts hold over values
that make a division by zero visible: the estimate divides by zero on the swapped or moved rays
exactly when it does on the rays themselves. Over the reals alone, where a quotient by zero is
zero, the swap holds whenever no zero divisor is reached, under every positive tolerance in
particular. -/

namespace Gaze

open Vec3 Checked

theorem Vec3.beq_comm (a b : Vec3 ℝ) : (a == b) = (b == a) :=
  Bool.eq_iff_iff.mpr (by rw [beq_eq_true_iff, beq_eq_true_iff, eq_comm])

attribute [ext] Approach

namespace Approach

/-- The same closest approach seen from the other line: parameters and points exchanged. -/
def swap {α : Type} (a : Approach α) : Approach α :=
  ⟨a.muRight, a.muLeft, a.pointRight, a.pointLeft⟩

theorem midpoint_swap (a : Approach ℝ) : a.swap.midpoint = a.midpoint := by
  ext <;> simp only [midpoint, swap, add_x, add_y, add_z, div_x, div_y, div_z, add_comm]

/-- The normal equations solved from either line. With the Gram determinant `ll·rr - rl²` of the
directions nonzero, the parameters found from the left line, `μ = (dr·rl - dl·rr) / (ll·rr - rl²)`
and `ν = (dr + rl·μ) / rr`, come back exchanged when solved from the right line, where the
difference of the origins changes sign and with it `dl` and `dr`. -/
theorem params_swap (dl dr : ℝ) {ll rr rl : ℝ} (hg : ll * rr - rl * rl ≠ 0) (hl : ll ≠ 0)
    (hr : rr ≠ 0) :
    (-dl * rl - -dr * ll) / (rr * ll - rl * rl) =
        (dr + rl * ((dr * rl - dl * rr) / (ll * rr - rl * rl))) / rr ∧
      (-dl + rl * ((-dl * rl - -dr * ll) / (rr * ll - rl * rl))) / ll =
        (dr * rl - dl * rr) / (ll * rr - rl * rl) := by
  have hg' : rr * ll - rl * rl ≠ 0 := by rwa [mul_comm rr]
  -- each quotient, multiplied out by its divisor
  have hμ := div_mul_cancel₀ (dr * rl - dl * rr) hg
  have hμ' := div_mul_cancel₀ (-dl * rl - -dr * ll) hg'
  have hν := div_mul_cancel₀ (dr + rl * ((dr * rl - dl * rr) / (ll * rr - rl * rl))) hr
  have hν' := div_mul_cancel₀ (-dl + rl * ((-dl * rl - -dr * ll) / (rr * ll - rl * rl))) hl
  constructor
  · apply mul_right_cancel₀ (mul_ne_zero hg hr)
    linear_combination rr * hμ' - (ll * rr - rl * rl) * hν - rl * hμ
  · apply mul_right_cancel₀ (mul_ne_zero hg hl)
    linear_combination (ll * rr - rl * rl) * hν' - ll * hμ + rl * hμ'

variable {ε : ℝ} {l0 r0 l r : Vec3 ℝ}

/-- Two searches whose lines have the same Gram determinant refuse alike. If, whenever both
answer, the second answer is `g` of the first, then the second search is the first mapped by
`g`. -/
theorem find_eq_map {l0' r0' l' r' : Vec3 ℝ} {g : Approach ℝ → Approach ℝ}
    (hgram : gram l' r' = gram l r)
    (hsome : ∀ a b, find ε l0 r0 l r = some a → find ε l0' r0' l' r' = some b → b = g a) :
    find ε l0' r0' l' r' = (find ε l0 r0 l r).map g := by
  by_cases hlt : gram l r < ε
  · rw [find_eq_none_iff.mpr hlt, find_eq_none_iff.mpr (hgram ▸ hlt), Option.map_none]
  · obtain ⟨a, ha⟩ : ∃ a, find ε l0 r0 l r = some a := exists_find_eq_some (not_lt.mp hlt)
    obtain ⟨b, hb⟩ : ∃ b, find ε l0' r0' l' r' = some b :=
      exists_find_eq_some (hgram ▸ not_lt.mp hlt)
    rw [ha, hb, Option.map_some, hsome a b ha hb]

/-- Swapping the lines exchanges their closest points, unless the answer rests on a quotient by a
zero Gram determinant. -/
theorem find_swap (h : gram l r ≠ 0 ∨ 0 < ε) :
    find ε r0 l0 r l = (find ε l0 r0 l r).map swap := by
  refine find_eq_map (gram_comm r l) fun a b ha hb => ?_
  obtain ⟨hle, hμ, hν, hpl, hpr⟩ := eq_of_find_eq_some ha
  obtain ⟨-, hμ', hν', hpl', hpr'⟩ := eq_of_find_eq_some hb
  have hg : gram l r ≠ 0 := h.elim id fun hε => (lt_of_lt_of_le hε hle).ne'
  have hll := dot_self_ne_zero_of_gram_left hg
  have hrr := dot_self_ne_zero_of_gram hg
  have hsub : ∀ v, (r0 - l0).dot v = -(l0 - r0).dot v := fun v => by
    simp only [dot_def, sub_x, sub_y, sub_z]
    ring
  rw [gram_def] at hg hμ
  rw [hsub, hsub, dot_comm l r, gram_def, dot_comm l r] at hμ'
  rw [hsub, dot_comm l r] at hν'
  -- solved from the right line, the normal equations give the same parameters exchanged
  obtain ⟨e1, e2⟩ := params_swap ((l0 - r0).dot l) ((l0 - r0).dot r) hg hll hrr
  rw [← hμ, ← hν, ← hμ'] at e1
  rw [← hμ', ← hμ, ← hν'] at e2
  exact Approach.ext e1 e2 (by rw [hpl', e1, ← hpr]; rfl) (by rw [hpr', e2, ← hpl]; rfl)

end Approach

namespace Vergence.Estimator

variable {l0 r0 l r : Vec3 ℝ}

/-- Swapping the eyes does not change a real estimate, as long as it reaches no quotient by a
zero Gram determinant. -/
theorem estimate_swap (e : Estimator ℝ) (h : Approach.gram l r ≠ 0 ∨ 0 < e.epsilon) :
    e.estimate r0 l0 r l = e.estimate l0 r0 l r := by
  have hmid : (r0 + l0) / (2.0 : ℝ) = (l0 + r0) / (2.0 : ℝ) := by
    ext <;> simp only [add_x, add_y, add_z, div_x, div_y, div_z, add_comm]
  simp only [estimate, Approach.find_swap h, hmid]
  cases Approach.find e.epsilon l0 r0 l r with
  | some a => simp only [Option.map_some, Approach.midpoint_swap]
  | none => simp only [Option.map_none, Vec3.beq_comm r0 l0]

theorem dividesByZero_swap (e : Estimator ℝ) : e.DividesByZero r l ↔ e.DividesByZero l r := by
  simp only [DividesByZero, Approach.gram_comm r l]

/-- Over checked values swapping the eyes changes nothing: the estimate divides by zero on the
swapped rays exactly when it does on the rays, and otherwise both are the same real estimate. -/
theorem estimate_checked_swap (e : Estimator ℝ) (l0 r0 l r : Vec3 ℝ) :
    e.checked.estimate r0.checked l0.checked r.checked l.checked =
      e.checked.estimate l0.checked r0.checked l.checked r.checked := by
  by_cases h : e.DividesByZero l r
  · rw [estimate_checked_of_dividesByZero h,
      estimate_checked_of_dividesByZero ((dividesByZero_swap e).mpr h)]
  · -- no zero divisor is reached, so a zero determinant must have been refused by a positive
    -- tolerance
    have hsafe : Approach.gram l r ≠ 0 ∨ 0 < e.epsilon := by
      by_cases hg : Approach.gram l r = 0
      · exact Or.inr (lt_of_not_ge fun hle => h ⟨by rw [hg]; exact hle, Or.inl hg⟩)
      · exact Or.inl hg
    rw [estimate_checked_of_not_dividesByZero h,
      estimate_checked_of_not_dividesByZero (mt (dividesByZero_swap e).mp h), estimate_swap e hsafe]

end Vergence.Estimator

namespace Vergence

/-- Swapping the eyes does not change the vergence. Under every policy, over values that make a
division by zero visible, the estimate of the swapped rays is the estimate of the rays, defined or
not; and the vergence under the default policy does not change. -/
theorem estimate_swap_eyes (c : Config ℝ) (l0 r0 l r : Vec3 ℝ) :
    (Estimator.ofConfig c.checked).estimate r0.checked l0.checked r.checked l.checked =
      (Estimator.ofConfig c.checked).estimate l0.checked r0.checked l.checked r.checked ∧
    ofRays r0 l0 r l = ofRays l0 r0 l r := by
  refine ⟨?_, ?_⟩
  · rw [Estimator.ofConfig_checked]
    exact Estimator.estimate_checked_swap _ l0 r0 l r
  · -- the default tolerance is positive, so no zero divisor is reached
    have hε : (0 : ℝ) < (Estimator.default : Estimator ℝ).epsilon := by
      norm_num [Estimator.default, parallelEpsilon]
    rw [ofRays, ofRays, Estimator.estimate_swap _ (Or.inr hε)]

end Vergence

/-! ### Change of frame -/

namespace Vec3

theorem norm_mul_scalar (v : Vec3 ℝ) (s : ℝ) : (v * s).norm = |s| * v.norm := by
  have hdot : (v * s).dot (v * s) = s ^ 2 * v.dot v := by
    simp only [dot_def, mul_x, mul_y, mul_z]
    ring
  rw [norm_def, norm_def, hdot, Real.sqrt_mul (sq_nonneg s), Real.sqrt_sq_eq_abs]

end Vec3

/-- A diagonal matrix of signs is orthogonal. -/
theorem Mat3.diagonal_mem_orthogonalGroup {a b c : ℝ} (ha : a * a = 1) (hb : b * b = 1)
    (hc : c * c = 1) :
    (⟨⟨a, 0, 0⟩, ⟨0, b, 0⟩, ⟨0, 0, c⟩⟩ : Mat3 ℝ).toMatrix ∈ Matrix.orthogonalGroup (Fin 3) ℝ := by
  rw [Matrix.mem_orthogonalGroup_iff']
  ext i j
  fin_cases i <;> fin_cases j <;>
    simp [Mat3.toMatrix, Matrix.mul_apply, Fin.sum_univ_three, ha, hb, hc]

/-- A similarity of space: an orthogonal matrix, a positive scale and a shift. It moves a point by
all three and a direction by the matrix alone. -/
structure Similarity where
  /-- The rotation or reflection. -/
  matrix : Mat3 ℝ
  /-- The factor on lengths. -/
  scale : ℝ
  /-- Where the origin goes. -/
  shift : Vec3 ℝ
  orthogonal : matrix.toMatrix ∈ Matrix.orthogonalGroup (Fin 3) ℝ
  scale_pos : 0 < scale

namespace Similarity

variable (f : Similarity)

/-- The image of a point. -/
noncomputable def point (v : Vec3 ℝ) : Vec3 ℝ := f.matrix.apply v * f.scale + f.shift

/-- The image of a direction. -/
noncomputable def direction (v : Vec3 ℝ) : Vec3 ℝ := f.matrix.apply v

/-- The image of a closest approach: the parameters scaled, the points moved. -/
noncomputable def approach (a : Approach ℝ) : Approach ℝ :=
  ⟨a.muLeft * f.scale, a.muRight * f.scale, f.point a.pointLeft, f.point a.pointRight⟩

theorem point_sub_point (a b : Vec3 ℝ) :
    f.point a - f.point b = f.matrix.apply (a - b) * f.scale := by
  rw [Mat3.apply_sub]
  ext <;> simp only [point, add_x, add_y, add_z, sub_x, sub_y, sub_z, mul_x, mul_y, mul_z] <;> ring

theorem dot_direction (a b : Vec3 ℝ) : (f.direction a).dot (f.direction b) = a.dot b :=
  Mat3.dot_apply_apply f.orthogonal a b

theorem gram_direction (l r : Vec3 ℝ) :
    Approach.gram (f.direction l) (f.direction r) = Approach.gram l r := by
  simp only [Approach.gram_def, dot_direction]

theorem dot_point_sub_point (a b v : Vec3 ℝ) :
    (f.point a - f.point b).dot (f.direction v) = f.scale * (a - b).dot v := by
  rw [point_sub_point, mul_dot, direction, Mat3.dot_apply_apply f.orthogonal]

theorem point_add_direction (p v : Vec3 ℝ) (μ : ℝ) :
    f.point p + f.direction v * (μ * f.scale) = f.point (p + v * μ) := by
  simp only [point, direction, Mat3.apply_add, Mat3.apply_mul_scalar]
  ext <;> simp only [add_x, add_y, add_z, mul_x, mul_y, mul_z] <;> ring

theorem midpoint_point (a b : Vec3 ℝ) :
    (f.point a + f.point b) / (2.0 : ℝ) = f.point ((a + b) / (2.0 : ℝ)) := by
  rw [div_two_eq, div_two_eq]
  simp only [point, Mat3.apply, dot_def]
  ext <;> simp only [add_x, add_y, add_z, mul_x, mul_y, mul_z, div_x, div_y, div_z] <;> ring

theorem point_injective : Function.Injective f.point := by
  intro a b h
  apply Mat3.apply_injective f.orthogonal
  have hs := f.scale_pos.ne'
  have hx := congrArg Vec3.x h
  have hy := congrArg Vec3.y h
  have hz := congrArg Vec3.z h
  simp only [point, add_x, add_y, add_z, mul_x, mul_y, mul_z] at hx hy hz
  ext
  · exact mul_right_cancel₀ hs (add_right_cancel hx)
  · exact mul_right_cancel₀ hs (add_right_cancel hy)
  · exact mul_right_cancel₀ hs (add_right_cancel hz)

theorem point_beq_point (a b : Vec3 ℝ) : (f.point a == f.point b) = (a == b) :=
  Bool.eq_iff_iff.mpr ((beq_eq_true_iff _ _).trans
    (f.point_injective.eq_iff.trans (beq_eq_true_iff a b).symm))

/-- Moving both lines by a similarity moves their closest approach: the tolerance sees the same
Gram determinant, and both parameters scale with the lengths. -/
theorem find_similarity (ε : ℝ) (l0 r0 l r : Vec3 ℝ) :
    Approach.find ε (f.point l0) (f.point r0) (f.direction l) (f.direction r) =
      (Approach.find ε l0 r0 l r).map f.approach := by
  refine Approach.find_eq_map (gram_direction f l r) fun a b ha hb => ?_
  obtain ⟨-, hμ, hν, hpl, hpr⟩ := Approach.eq_of_find_eq_some ha
  obtain ⟨-, hμ', hν', hpl', hpr'⟩ := Approach.eq_of_find_eq_some hb
  simp only [gram_direction, dot_direction, dot_point_sub_point] at hμ' hν'
  -- the moved search sees every product with the difference of origins scaled by the scale
  have e1 : b.muLeft = a.muLeft * f.scale := by
    rw [hμ', hμ]
    ring
  have e2 : b.muRight = a.muRight * f.scale := by
    rw [hν', e1, hν]
    ring
  exact Approach.ext e1 e2 (by rw [hpl', e1, point_add_direction, ← hpl]; rfl)
    (by rw [hpr', e2, point_add_direction, ← hpr]; rfl)

/-- An estimator whose unit is scaled with the frame gives, on the moved rays, the estimate of the
rays: the distance it measures scales by the frame's scale, which the unit cancels. -/
theorem estimate_similarity (e : Vergence.Estimator ℝ) (l0 r0 l r : Vec3 ℝ) :
    ({ e with unitsPerMeter := e.unitsPerMeter * f.scale } : Vergence.Estimator ℝ).estimate
        (f.point l0) (f.point r0) (f.direction l) (f.direction r) = e.estimate l0 r0 l r := by
  simp only [Vergence.Estimator.estimate, find_similarity, midpoint_point]
  cases Approach.find e.epsilon l0 r0 l r with
  | some a =>
    have hmid : (f.approach a).midpoint = f.point a.midpoint := midpoint_point f _ _
    simp only [Option.map_some, hmid, point_sub_point, Vec3.norm_mul_scalar,
      Mat3.norm_apply f.orthogonal, abs_of_pos f.scale_pos]
    rw [mul_comm f.scale, mul_div_mul_right _ _ f.scale_pos.ne']
  | none => simp only [Option.map_none, point_beq_point]

theorem dividesByZero_similarity (e : Vergence.Estimator ℝ) (l r : Vec3 ℝ) :
    ({ e with unitsPerMeter := e.unitsPerMeter * f.scale } : Vergence.Estimator ℝ).DividesByZero
        (f.direction l) (f.direction r) ↔ e.DividesByZero l r := by
  simp only [Vergence.Estimator.DividesByZero, gram_direction, mul_eq_zero, f.scale_pos.ne',
    or_false]

/-- Over checked values a similarity changes nothing either: the estimate divides by zero on the
moved rays exactly when it does on the rays. -/
theorem estimate_checked_similarity (e : Vergence.Estimator ℝ) (l0 r0 l r : Vec3 ℝ) :
    ({ e with unitsPerMeter := e.unitsPerMeter * f.scale } : Vergence.Estimator ℝ).checked.estimate
        (f.point l0).checked (f.point r0).checked (f.direction l).checked (f.direction r).checked =
      e.checked.estimate l0.checked r0.checked l.checked r.checked := by
  by_cases h : e.DividesByZero l r
  · rw [Vergence.Estimator.estimate_checked_of_dividesByZero h,
      Vergence.Estimator.estimate_checked_of_dividesByZero
        ((f.dividesByZero_similarity e l r).mpr h)]
  · rw [Vergence.Estimator.estimate_checked_of_not_dividesByZero h,
      Vergence.Estimator.estimate_checked_of_not_dividesByZero
        (mt (f.dividesByZero_similarity e l r).mp h), f.estimate_similarity]

/-- The host frame seen from the device: the y axis reflected, centimeters read as meters. -/
noncomputable def hostFrame : Similarity where
  matrix := ⟨⟨1, 0, 0⟩, ⟨0, -1, 0⟩, ⟨0, 0, 1⟩⟩
  scale := centimetersPerMeter⁻¹
  shift := ⟨0, 0, 0⟩
  orthogonal := Mat3.diagonal_mem_orthogonalGroup (one_mul 1) (by norm_num) (one_mul 1)
  scale_pos := inv_pos.mpr (by norm_num [centimetersPerMeter])

theorem hostFrame_point (v : Vec3 ℝ) : hostFrame.point v = v.toHost := by
  ext <;> simp only [hostFrame, point, Mat3.apply, dot_def, toHost, add_x, add_y, add_z, mul_x,
    mul_y, mul_z, div_x, div_y, div_z, flipY_x, flipY_y, flipY_z, centimetersPerMeter] <;>
    norm_num <;> ring

theorem hostFrame_direction (v : Vec3 ℝ) : hostFrame.direction v = v.flipY := by
  ext <;> simp [hostFrame, direction, Mat3.apply, dot_def]

/-- The shift of space by `t`. -/
noncomputable def translation (t : Vec3 ℝ) : Similarity where
  matrix := ⟨⟨1, 0, 0⟩, ⟨0, 1, 0⟩, ⟨0, 0, 1⟩⟩
  scale := 1
  shift := t
  orthogonal := Mat3.diagonal_mem_orthogonalGroup (one_mul 1) (one_mul 1) (one_mul 1)
  scale_pos := one_pos

theorem translation_scale (t : Vec3 ℝ) : (translation t).scale = 1 := rfl

theorem translation_point (t v : Vec3 ℝ) : (translation t).point v = v + t := by
  ext <;> simp [translation, point, Mat3.apply, dot_def]

theorem translation_direction (t v : Vec3 ℝ) : (translation t).direction v = v := by
  ext <;> simp [translation, direction, Mat3.apply, dot_def]

end Similarity

namespace Vergence

/-- The vergence does not depend on the frame. Under every policy, moving the eye origins by a
similarity and the directions by its matrix, with the unit scaled by its scale, gives the same
estimate, over values that make a division by zero visible and over the reals. So the vergence a
sample stores from the device rays in centimeters is the estimate recomputed in meters from the
sample's own host-frame eyes, and a shift of both eye origins changes nothing. -/
theorem Config.estimate_changeOfFrame (c : Config ℝ) :
    (∀ (f : Similarity) (l0 r0 l r : Vec3 ℝ),
      (Estimator.ofConfig (Config.checked { c with unitsPerMeter := c.unitsPerMeter * f.scale
          })).estimate (f.point l0).checked (f.point r0).checked (f.direction l).checked
          (f.direction r).checked =
        (Estimator.ofConfig c.checked).estimate l0.checked r0.checked l.checked r.checked ∧
      (Estimator.ofConfig { c with unitsPerMeter := c.unitsPerMeter * f.scale }).estimate
          (f.point l0) (f.point r0) (f.direction l) (f.direction r) =
        (Estimator.ofConfig c).estimate l0 r0 l r) ∧
    (c.unitsPerMeter = 100 → ∀ e : Event ℝ, e.vergence = none →
      (Sample.ofEvent (Estimator.ofConfig c) e).combined.vergence =
        ((Estimator.ofConfig { c with unitsPerMeter := 1 }).estimate
          (Sample.ofEvent (Estimator.ofConfig c) e).left.origin
          (Sample.ofEvent (Estimator.ofConfig c) e).right.origin
          (Sample.ofEvent (Estimator.ofConfig c) e).left.gazeRay
          (Sample.ofEvent (Estimator.ofConfig c) e).right.gazeRay).getD (0.0 / 0.0)) ∧
    ∀ t l0 r0 l r : Vec3 ℝ,
      (Estimator.ofConfig c).estimate (l0 + t) (r0 + t) l r =
        (Estimator.ofConfig c).estimate l0 r0 l r := by
  have hscaled : ∀ s : ℝ, Estimator.ofConfig { c with unitsPerMeter := c.unitsPerMeter * s } =
      { Estimator.ofConfig c with unitsPerMeter := (Estimator.ofConfig c).unitsPerMeter * s } :=
    fun _ => rfl
  refine ⟨fun f l0 r0 l r => ⟨?_, ?_⟩, fun hu e hv => ?_, fun t l0 r0 l r => ?_⟩
  · rw [Estimator.ofConfig_checked, Estimator.ofConfig_checked, hscaled]
    exact f.estimate_checked_similarity _ l0 r0 l r
  · rw [hscaled]
    exact f.estimate_similarity _ l0 r0 l r
  · -- the sample's eyes are the event's eyes moved to the host frame, of scale 1/100
    have hunit : ({ c with unitsPerMeter := 1 } : Config ℝ) =
        { c with unitsPerMeter := c.unitsPerMeter * Similarity.hostFrame.scale } := by
      rw [hu]
      norm_num [Similarity.hostFrame, centimetersPerMeter]
    simp only [Sample.ofEvent, hv, Eye.toHost, ← Similarity.hostFrame_point,
      ← Similarity.hostFrame_direction, hunit, hscaled, Similarity.estimate_similarity]
  · have h := (Similarity.translation t).estimate_similarity (Estimator.ofConfig c) l0 r0 l r
    rw [Similarity.translation_scale, mul_one, Similarity.translation_point,
      Similarity.translation_point, Similarity.translation_direction,
      Similarity.translation_direction] at h
    exact h

end Vergence

end Gaze

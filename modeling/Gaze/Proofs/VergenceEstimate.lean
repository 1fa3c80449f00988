import Gaze.Proofs.Checked
import Gaze.Config.Load
import Gaze.Sensor.Sample

/-! What the vergence estimate measures, read in exact arithmetic.

Rays that meet at a point come closest there, so under any policy whose positive tolerance their
Gram determinant reaches, the vergence is the distance from halfway between the eye origins to
that point, in the policy's units. It does not matter how long the directions are, nor on which
side of its origin each ray meets the other.

A policy with a positive tolerance and a nonzero unit never divides by zero: over checked values
its estimate is defined and is the real estimate. Exactly parallel rays from distinct origins
then get the policy's fallback, or nothing under the strict policy. Loading a configuration does
not check the tolerance or the unit. A strict configuration with a zero tolerance loads, and for
parallel rays from distinct origins its estimate divides zero by zero where it should have given
nothing. -/

namespace Gaze

open Vec3 Checked

namespace Vec3

theorem beq_eq_true_iff (a b : Vec3 ℝ) : (a == b) = true ↔ a = b := by
  show ((a.x == b.x && a.y == b.y) && a.z == b.z) = true ↔ a = b
  simp only [Bool.and_eq_true, beq_iff_eq]
  constructor
  · rintro ⟨⟨hx, hy⟩, hz⟩
    ext
    · exact hx
    · exact hy
    · exact hz
  · rintro rfl
    exact ⟨⟨rfl, rfl⟩, rfl⟩

theorem beq_eq_false_of_ne {a b : Vec3 ℝ} (h : a ≠ b) : (a == b) = false := by
  cases hab : a == b with
  | false => rfl
  | true => exact absurd ((beq_eq_true_iff a b).mp hab) h

theorem div_two_eq (v : Vec3 ℝ) : v / (2.0 : ℝ) = v / (2 : ℝ) := by
  norm_num

end Vec3

namespace Vergence

/-! ### Vergence at a fixation point -/

/-- What the vergence estimate says about rays from `l0` along `l` and from `r0` along `r` that
meet at `p`. Every policy with a positive tolerance that the rays' Gram determinant reaches
estimates the distance from halfway between the origins to `p`, in its units. When the
determinant also reaches the default tolerance, the vergence under the default policy, and the
vergence stored in the sample of an event with these rays and none measured, are that distance
in meters. -/
def FixationVergence (l0 r0 l r p : Vec3 ℝ) : Prop :=
  (∀ c : Config ℝ, 0 < c.parallelEpsilon → c.parallelEpsilon ≤ Approach.gram l r →
    (Estimator.ofConfig c).estimate l0 r0 l r =
      some ((p - (l0 + r0) / (2 : ℝ)).norm / c.unitsPerMeter)) ∧
  (parallelEpsilon ≤ Approach.gram l r →
    ofRays l0 r0 l r = (p - (l0 + r0) / (2 : ℝ)).norm / 100 ∧
    ∀ e : Event ℝ, e.vergence = none → e.left.origin = l0 → e.right.origin = r0 →
      e.left.gazeRay = l → e.right.gazeRay = r →
      (Sample.normalize e).combined.vergence = (p - (l0 + r0) / (2 : ℝ)).norm / 100)

/-- Rays that meet have the vergence of their meeting point, whatever the lengths of the
directions and the signs of the parameters that reach it. -/
theorem fixationVergence {l0 r0 l r p : Vec3 ℝ} {a b : ℝ} (hl : l0 + l * a = p)
    (hr : r0 + r * b = p) : FixationVergence l0 r0 l r p := by
  have habs : |Approach.gram l r| = Approach.gram l r := abs_of_nonneg (Approach.gram_nonneg l r)
  -- every estimator reaching the rays' determinant measures the distance to `p`
  have hest : ∀ est : Estimator ℝ, 0 < est.epsilon → est.epsilon ≤ Approach.gram l r →
      est.estimate l0 r0 l r = some ((p - (l0 + r0) / (2 : ℝ)).norm / est.unitsPerMeter) := by
    intro est hε hle
    rw [Estimator.estimate_of_meet est hε (by rwa [habs]) hl hr, div_two_eq]
  refine ⟨fun c hε hle => hest _ hε hle, fun hle => ?_⟩
  have hdefault : Estimator.default.estimate l0 r0 l r =
      some ((p - (l0 + r0) / (2 : ℝ)).norm / 100) := by
    rw [hest _ (by norm_num [Estimator.default, parallelEpsilon]) hle]
    norm_num [Estimator.default, centimetersPerMeter]
  refine ⟨by rw [ofRays, hdefault]; rfl, ?_⟩
  intro e hv hl0 hr0 hlg hrg
  simp only [Sample.normalize, Sample.ofEvent, hv, hl0, hr0, hlg, hrg, hdefault, Option.getD_some]

/-- Converging rays from the library's own eye positions, a centimeter apart in depth, toward a
point two and a half meters ahead; the directions are left unnormalized. -/
theorem fixationVergence_converging :
    (⟨-6.3, 3.2, 1.3⟩ : Vec3 ℝ) + (⟨256.3, 16.8, -16.3⟩ : Vec3 ℝ) * (1 : ℝ) = ⟨250, 20, -15⟩ ∧
    (⟨-5.3, -3.3, 1.0⟩ : Vec3 ℝ) + (⟨255.3, 23.3, -16⟩ : Vec3 ℝ) * (1 : ℝ) = ⟨250, 20, -15⟩ ∧
    FixationVergence ⟨-6.3, 3.2, 1.3⟩ ⟨-5.3, -3.3, 1.0⟩ ⟨256.3, 16.8, -16.3⟩ ⟨255.3, 23.3, -16⟩
      ⟨250, 20, -15⟩ := by
  have hl : (⟨-6.3, 3.2, 1.3⟩ : Vec3 ℝ) + (⟨256.3, 16.8, -16.3⟩ : Vec3 ℝ) * (1 : ℝ) =
      ⟨250, 20, -15⟩ := by
    ext <;> simp only [add_x, add_y, add_z, mul_x, mul_y, mul_z] <;> norm_num
  have hr : (⟨-5.3, -3.3, 1.0⟩ : Vec3 ℝ) + (⟨255.3, 23.3, -16⟩ : Vec3 ℝ) * (1 : ℝ) =
      ⟨250, 20, -15⟩ := by
    ext <;> simp only [add_x, add_y, add_z, mul_x, mul_y, mul_z] <;> norm_num
  exact ⟨hl, hr, fixationVergence hl hr⟩

/-! ### Division by zero -/

/-- A policy over checked values. -/
def Config.checked (c : Config ℝ) : Config Checked :=
  ⟨val c.parallelEpsilon, val c.parallelFallback, c.strict, val c.unitsPerMeter⟩

/-- An estimator over checked values. -/
def Estimator.checked (e : Estimator ℝ) : Estimator Checked :=
  ⟨val e.epsilon, e.fallback.map val, val e.unitsPerMeter⟩

theorem Estimator.ofConfig_checked (c : Config ℝ) :
    Estimator.ofConfig c.checked = (Estimator.ofConfig c).checked := by
  cases hs : c.strict with
  | false => simp only [Estimator.ofConfig, Config.checked, Estimator.checked, hs]; rfl
  | true => simp only [Estimator.ofConfig, Config.checked, Estimator.checked, hs]; rfl

theorem checked_div_two (v : Vec3 ℝ) : v.checked / (2.0 : Checked) = (v / (2.0 : ℝ)).checked :=
  checked_div v (by norm_num)

theorem Approach.checked_midpoint (a : Approach ℝ) : a.checked.midpoint = a.midpoint.checked := by
  show (a.pointLeft.checked + a.pointRight.checked) / (2.0 : Checked) = _
  rw [checked_add, checked_div_two]
  rfl

/-- Where an estimator divides by zero on two rays: the tolerance lets them through although their
Gram determinant, the divisor of the parameters, is zero; or they pass and the unit, the divisor of
the result, is zero. -/
def Estimator.DividesByZero (e : Estimator ℝ) (l r : Vec3 ℝ) : Prop :=
  e.epsilon ≤ Approach.gram l r ∧ (Approach.gram l r = 0 ∨ e.unitsPerMeter = 0)

/-- An estimate that divides by no zero is the real estimate, with every value defined. -/
theorem Estimator.estimate_checked_of_not_dividesByZero {e : Estimator ℝ} {l r : Vec3 ℝ}
    (h : ¬e.DividesByZero l r) (l0 r0 : Vec3 ℝ) :
    e.checked.estimate l0.checked r0.checked l.checked r.checked =
      (e.estimate l0 r0 l r).map val := by
  have hfind : Approach.gram l r < e.epsilon ∨ Approach.gram l r ≠ 0 :=
    (lt_or_ge _ _).imp_right fun hle hg => h ⟨hle, Or.inl hg⟩
  simp only [estimate, checked_add, checked_div_two]
  rw [show e.checked.epsilon = val e.epsilon from rfl, Approach.find_checked_of hfind]
  cases hsome : Approach.find e.epsilon l0 r0 l r with
  | some a =>
    -- the rays passed the tolerance, so the unit is the one divisor left
    have hu : e.unitsPerMeter ≠ 0 := fun hu =>
      h ⟨(Approach.eq_of_find_eq_some hsome).1, Or.inr hu⟩
    simp only [Option.map_some, Approach.checked_midpoint, checked_sub, norm_checked]
    exact congrArg some (val_div hu)
  | none =>
    simp only [Option.map_none, checked_beq_checked]
    by_cases h : (l0 == r0) = true
    · simp only [h, if_true, Option.map_some]
      rfl
    · simp only [h]
      rfl

/-- An estimate that divides by zero is undefined. -/
theorem Estimator.estimate_checked_of_dividesByZero {e : Estimator ℝ} {l r : Vec3 ℝ}
    (h : e.DividesByZero l r) (l0 r0 : Vec3 ℝ) :
    e.checked.estimate l0.checked r0.checked l.checked r.checked = some undefined := by
  obtain ⟨hle, hz⟩ := h
  by_cases hg : Approach.gram l r = 0
  · -- a zero determinant passed the tolerance: the left parameter is a quotient by zero, and the
    -- midpoint inherits it
    have hpass : ¬Scalar.abs (Approach.gram l.checked r.checked) < val e.epsilon := by
      rw [Approach.gram_checked, hg, abs_val, val_lt_val, abs_zero]
      exact not_lt.mpr (hg ▸ hle)
    have hmu : ∀ n : ℝ, (val n / Approach.gram l.checked r.checked : Checked) = undefined := by
      intro n
      rw [Approach.gram_checked, hg, val_div_zero]
    simp only [Estimator.checked, estimate, Approach.find, hpass, if_false, dot_checked,
      checked_sub, val_mul, val_sub, hmu, Option.some.injEq]
    rw [norm_of_undefined_x rfl]
    rfl
  · -- the rays pass with every value defined, and the distance is divided by the zero unit
    have hu := hz.resolve_left hg
    obtain ⟨a, ha⟩ : ∃ a, Approach.find e.epsilon l0 r0 l r = some a :=
      Approach.exists_find_eq_some hle
    simp only [estimate, checked_add, checked_div_two]
    rw [show e.checked.epsilon = val e.epsilon from rfl, Approach.find_checked_of (Or.inr hg), ha]
    simp only [Option.map_some, Approach.checked_midpoint, checked_sub, norm_checked]
    rw [show e.checked.unitsPerMeter = val e.unitsPerMeter from rfl, hu, val_div_zero]

/-- An estimator with a positive tolerance and a nonzero unit never divides by zero: over checked
values it gives the real estimate, every value defined. -/
theorem Estimator.estimate_checked {e : Estimator ℝ} (hε : 0 < e.epsilon)
    (hu : e.unitsPerMeter ≠ 0) (l0 r0 l r : Vec3 ℝ) :
    e.checked.estimate l0.checked r0.checked l.checked r.checked =
      (e.estimate l0 r0 l r).map val :=
  estimate_checked_of_not_dividesByZero
    (fun ⟨hle, hz⟩ => hz.elim (fun hg => not_le.mpr hε (hg ▸ hle)) hu) l0 r0

/-- What a policy promises for two rays: over checked values its estimate is the real estimate
with every value defined, so it never divides by zero; and exactly parallel rays from distinct
origins get the fallback, or nothing under the strict policy. -/
def Config.DividesSafely (c : Config ℝ) (l0 r0 l r : Vec3 ℝ) : Prop :=
  (Estimator.ofConfig c.checked).estimate l0.checked r0.checked l.checked r.checked =
    ((Estimator.ofConfig c).estimate l0 r0 l r).map val ∧
  ∀ s t : ℝ, (s ≠ 0 ∨ t ≠ 0) → l * s + r * t = ⟨0, 0, 0⟩ → l0 ≠ r0 →
    (Estimator.ofConfig c).estimate l0 r0 l r = if c.strict then none else some c.parallelFallback

/-- Every policy with a positive tolerance and a nonzero unit divides safely, for all rays. -/
theorem Config.dividesSafely {c : Config ℝ} (hε : 0 < c.parallelEpsilon)
    (hu : c.unitsPerMeter ≠ 0) (l0 r0 l r : Vec3 ℝ) : c.DividesSafely l0 r0 l r := by
  refine ⟨?_, ?_⟩
  · rw [Estimator.ofConfig_checked]
    exact Estimator.estimate_checked hε hu l0 r0 l r
  · intro s t hst hdep hne
    -- dependent directions have a zero determinant, below the positive tolerance
    have hnone : Approach.find (Estimator.ofConfig c).epsilon l0 r0 l r = none := by
      rw [Approach.find_eq_none_iff, Approach.gram_eq_zero_of_dependent hst hdep]
      exact hε
    simp only [Estimator.estimate, hnone, beq_eq_false_of_ne hne, Bool.false_eq_true, if_false]
    rfl

/-- Under a zero tolerance the search refuses no pair of lines, so on dependent directions it
divides by their zero determinant and the estimate is undefined. -/
theorem Estimator.estimate_checked_of_zero_tolerance {c : Config ℝ} (hε : c.parallelEpsilon = 0)
    {l r : Vec3 ℝ} (hg : Approach.gram l r = 0) (l0 r0 : Vec3 ℝ) :
    (Estimator.ofConfig c.checked).estimate l0.checked r0.checked l.checked r.checked =
      some undefined := by
  rw [Estimator.ofConfig_checked]
  exact estimate_checked_of_dividesByZero ⟨hg ▸ hε.le, Or.inl hg⟩ l0 r0

/-- The default policy, at the library's own eye positions with parallel gaze. -/
theorem dividesSafely_default_parallel :
    (0 : ℝ) < (Config.default : Config ℝ).parallelEpsilon ∧
    (Config.default : Config ℝ).unitsPerMeter ≠ 0 ∧
    (Config.default : Config ℝ).DividesSafely ⟨-6.3, 3.2, 1.3⟩ ⟨-5.3, -3.3, 1.0⟩ ⟨1, 0, 0⟩
      ⟨1, 0, 0⟩ := by
  have hε : (0 : ℝ) < (Config.default : Config ℝ).parallelEpsilon := by norm_num [Config.default]
  have hu : (Config.default : Config ℝ).unitsPerMeter ≠ 0 := by norm_num [Config.default]
  exact ⟨hε, hu, Config.dividesSafely hε hu _ _ _ _⟩

end Vergence

/-! ### A loaded configuration that divides by zero -/

/-- The real number a word stands for, when it is finite. -/
noncomputable def Binary64.toReal? : Binary64 → Option ℝ
  | .finite negative mantissa exponent =>
    some ((if negative then -1 else 1) * (mantissa : ℝ) * (2 : ℝ) ^ exponent)
  | _ => none

/-- A float policy in exact arithmetic, when its three numbers are finite. -/
noncomputable def Vergence.Config.toReal? (c : Vergence.Config Float) :
    Option (Vergence.Config ℝ) := do
  pure ⟨← (Binary64.ofFloat c.parallelEpsilon).toReal?,
    ← (Binary64.ofFloat c.parallelFallback).toReal?, c.strict,
    ← (Binary64.ofFloat c.unitsPerMeter).toReal?⟩

open Vergence in
/-- A strict configuration with a zero tolerance loads. For parallel rays from distinct origins
its estimate divides by the zero Gram determinant, and gives an undefined vergence where the
strict policy should give none. -/
theorem strict_zero_tolerance_divides_by_zero :
    ∃ c, GazeConfig.load "[vergence]\nparallel_epsilon = 0\nstrict = true\n" = .ok c ∧
      c.vergence.toReal? = some ⟨0, 1, true, 100⟩ ∧
      (Estimator.ofConfig (Config.checked ⟨0, 1, true, 100⟩)).estimate
        (⟨0, 1, 0⟩ : Vec3 ℝ).checked (⟨0, -1, 0⟩ : Vec3 ℝ).checked (⟨1, 0, 0⟩ : Vec3 ℝ).checked
        (⟨1, 0, 0⟩ : Vec3 ℝ).checked = some undefined := by
  have hbits : (GazeConfig.load "[vergence]\nparallel_epsilon = 0\nstrict = true\n").toOption.map
      (fun c => (c.vergence.parallelEpsilon.toBits, c.vergence.parallelFallback.toBits,
        c.vergence.strict, c.vergence.unitsPerMeter.toBits)) =
      some (0, 0x3FF0000000000000, true, 0x4059000000000000) := by
    decide +kernel
  cases hload : GazeConfig.load "[vergence]\nparallel_epsilon = 0\nstrict = true\n" with
  | error e =>
    rw [hload] at hbits
    cases hbits
  | ok c =>
    rw [hload] at hbits
    simp only [Except.toOption, Option.map_some, Option.some.injEq, Prod.mk.injEq] at hbits
    obtain ⟨hε, hf, hs, hu⟩ := hbits
    refine ⟨c, rfl, ?_, ?_⟩
    · have hε' : Binary64.ofBits 0 = .finite false 0 (-1075) := by decide
      have hf' : Binary64.ofBits 0x3FF0000000000000 = .finite false (Nat.pow 2 52) (-52) := by
        decide
      have hu' : Binary64.ofBits 0x4059000000000000 = .finite false (25 * Nat.pow 2 48) (-46) := by
        decide
      simp only [Vergence.Config.toReal?, Binary64.ofFloat, hε, hf, hs, hu, hε', hf', hu',
        Binary64.toReal?]
      norm_num
    · -- parallel directions have a zero determinant, which a zero tolerance does not refuse
      exact Estimator.estimate_checked_of_zero_tolerance rfl
        (by norm_num [Approach.gram_def, dot_def]) _ _

end Gaze

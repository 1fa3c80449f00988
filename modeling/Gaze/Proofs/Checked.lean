import Gaze.Proofs.ClosestApproach

/-! Exact arithmetic that notices division by zero.

Reading the geometry over the real numbers hides every division by zero, since a real quotient by
zero is zero. Here a value is a real number or `undefined`: dividing by zero gives `undefined`, and
every operation on an undefined value stays undefined. The geometry runs unchanged over these
values, so a computation divides by zero somewhere exactly when its result is undefined, and a
run that never does is the real run with every value defined. -/

namespace Gaze

/-- A real number, or the mark that a division by zero has happened. -/
inductive Checked where
  /-- A defined value. -/
  | val (x : ℝ)
  /-- The result of a division by zero, and of anything computed from one. -/
  | undefined

namespace Checked

/-- A real operation on defined values; an undefined operand makes the result undefined. -/
def map₂ (f : ℝ → ℝ → ℝ) : Checked → Checked → Checked
  | val x, val y => val (f x y)
  | _, _ => undefined

/-- A real function on a defined value. -/
def map (f : ℝ → ℝ) : Checked → Checked
  | val x => val (f x)
  | undefined => undefined

/-- Division, undefined for a zero divisor. -/
noncomputable def div : Checked → Checked → Checked
  | val x, val y => if y = 0 then undefined else val (x / y)
  | _, _ => undefined

/-- Defined values compare as reals; an undefined value is neither below nor above anything. -/
def Lt : Checked → Checked → Prop
  | val x, val y => x < y
  | _, _ => False

/-- Defined values compare as reals. -/
def Le : Checked → Checked → Prop
  | val x, val y => x ≤ y
  | _, _ => False

/-- The operations of the gaze geometry on checked values. -/
noncomputable instance : Scalar Checked where
  add := map₂ (· + ·)
  sub := map₂ (· - ·)
  mul := map₂ (· * ·)
  div := div
  neg := map (- ·)
  ofScientific m s e := val (OfScientific.ofScientific m s e)
  lt := Lt
  le := Le
  beq a b := @decide (a = b) (Classical.propDecidable _)
  sqrt := map Real.sqrt
  abs := map (|·|)
  sin := map Real.sin
  cos := map Real.cos
  acos := map Real.arccos
  pi := val Real.pi
  isFinite a := match a with
    | val _ => true
    | undefined => false
  decLt _ _ := Classical.propDecidable _
  decLe _ _ := Classical.propDecidable _

variable {x y : ℝ}

@[simp] theorem val_add : (val x + val y : Checked) = val (x + y) := rfl
@[simp] theorem val_sub : (val x - val y : Checked) = val (x - y) := rfl
@[simp] theorem val_mul : (val x * val y : Checked) = val (x * y) := rfl

theorem val_div (h : y ≠ 0) : (val x / val y : Checked) = val (x / y) := by
  show div _ _ = _
  simp only [div, h, if_false]

@[simp] theorem val_div_zero : (val x / val 0 : Checked) = undefined := by
  show div _ _ = _
  simp only [div, if_true]

@[simp] theorem undefined_add (a : Checked) : undefined + a = undefined := rfl
@[simp] theorem undefined_sub (a : Checked) : undefined - a = undefined := rfl
@[simp] theorem undefined_mul (a : Checked) : undefined * a = undefined := rfl
@[simp] theorem undefined_div (a : Checked) : undefined / a = undefined := rfl

@[simp] theorem add_undefined (a : Checked) : a + undefined = undefined := by cases a <;> rfl
@[simp] theorem sub_undefined (a : Checked) : a - undefined = undefined := by cases a <;> rfl
@[simp] theorem mul_undefined (a : Checked) : a * undefined = undefined := by cases a <;> rfl

@[simp] theorem sqrt_val : Scalar.sqrt (val x) = val (Real.sqrt x) := rfl
@[simp] theorem sqrt_undefined : Scalar.sqrt undefined = undefined := rfl
@[simp] theorem abs_val : Scalar.abs (val x) = val |x| := rfl

@[simp] theorem val_lt_val : (val x < val y) ↔ x < y := Iff.rfl

@[simp] theorem ofScientific_eq (m : Nat) (s : Bool) (e : Nat) :
    (OfScientific.ofScientific m s e : Checked) = val (OfScientific.ofScientific m s e) := rfl

theorem val_beq_val : (val x == val y) = (x == y) := by
  show @decide (val x = val y) (Classical.propDecidable _) = _
  by_cases h : x = y
  · subst h
    simp
  · have hv : val x ≠ val y := fun hv => h (val.inj hv)
    simp [h, hv]

end Checked

open Checked

/-! ### Vectors and closest approach over checked values -/

namespace Vec3

/-- A real vector as checked values, every coordinate defined. -/
def checked (v : Vec3 ℝ) : Vec3 Checked := ⟨val v.x, val v.y, val v.z⟩

@[simp] theorem checked_add (a b : Vec3 ℝ) : a.checked + b.checked = (a + b).checked := rfl
@[simp] theorem checked_sub (a b : Vec3 ℝ) : a.checked - b.checked = (a - b).checked := rfl
@[simp] theorem checked_mul (a : Vec3 ℝ) (s : ℝ) : a.checked * val s = (a * s).checked := rfl

theorem checked_div (a : Vec3 ℝ) {s : ℝ} (hs : s ≠ 0) : a.checked / val s = (a / s).checked := by
  show (⟨val a.x / val s, val a.y / val s, val a.z / val s⟩ : Vec3 Checked) = _
  rw [val_div hs, val_div hs, val_div hs]
  rfl

@[simp] theorem dot_checked (a b : Vec3 ℝ) : a.checked.dot b.checked = val (a.dot b) := rfl

@[simp] theorem norm_checked (a : Vec3 ℝ) : a.checked.norm = val a.norm := rfl

theorem checked_beq_checked (a b : Vec3 ℝ) : (a.checked == b.checked) = (a == b) := by
  show ((val a.x == val b.x && val a.y == val b.y) && val a.z == val b.z) =
    ((a.x == b.x && a.y == b.y) && a.z == b.z)
  rw [val_beq_val, val_beq_val, val_beq_val]

/-- A vector with an undefined coordinate has an undefined length. -/
theorem norm_of_undefined_x {v : Vec3 Checked} (h : v.x = undefined) : v.norm = undefined := by
  show Scalar.sqrt (v.x * v.x + v.y * v.y + v.z * v.z) = undefined
  rw [h]
  rfl

end Vec3

namespace Approach

/-- An answer of the closest approach with every value defined. -/
def checked (a : Approach ℝ) : Approach Checked :=
  ⟨val a.muLeft, val a.muRight, a.pointLeft.checked, a.pointRight.checked⟩

theorem gram_checked (l r : Vec3 ℝ) : gram l.checked r.checked = val (gram l r) := rfl

variable {ε : ℝ} {l0 r0 l r : Vec3 ℝ}

/-- The search over checked values refuses the same lines as the real search and otherwise finds
the same points, all defined, unless it lets through lines whose Gram determinant is zero. -/
theorem find_checked_of (h : gram l r < ε ∨ gram l r ≠ 0) :
    find (val ε) l0.checked r0.checked l.checked r.checked = (find ε l0 r0 l r).map checked := by
  by_cases hlt : gram l r < ε
  · have hc : Scalar.abs (gram l.checked r.checked) < val ε := by
      rw [gram_checked, abs_val, val_lt_val, abs_of_nonneg (gram_nonneg l r)]
      exact hlt
    rw [find_eq_none_iff.mpr hlt]
    simp only [find, hc, if_true, Option.map_none]
  · -- past the tolerance both divisors are nonzero: the determinant, and by Cauchy–Schwarz the
    -- squared length of the right direction
    have hg : gram l r ≠ 0 := h.resolve_left hlt
    have hrr := dot_self_ne_zero_of_gram hg
    have hc : ¬Scalar.abs (gram l.checked r.checked) < val ε := by
      rw [gram_checked, abs_val, val_lt_val, abs_of_nonneg (gram_nonneg l r)]
      exact hlt
    have hr : ¬Scalar.abs (gram l r) < ε := by
      rw [show Scalar.abs (gram l r) = gram l r from abs_of_nonneg (gram_nonneg l r)]
      exact hlt
    simp only [find, hc, hr, if_false, Option.map_some, checked]
    simp only [Vec3.checked_sub, Vec3.dot_checked, val_mul, val_sub, gram_checked, val_div hg,
      val_add, val_div hrr, Vec3.checked_mul, Vec3.checked_add]

/-- At a positive tolerance the search never divides by zero: over checked values it refuses the
same lines and finds the same points, all defined. -/
theorem find_checked (hε : 0 < ε) :
    find (val ε) l0.checked r0.checked l.checked r.checked = (find ε l0 r0 l r).map checked :=
  find_checked_of ((lt_or_ge (gram l r) ε).imp_right fun hle => (lt_of_lt_of_le hε hle).ne')

end Approach

end Gaze

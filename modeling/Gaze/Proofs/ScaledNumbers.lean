import Mathlib
import Gaze.Decimal.Nearest

/-! Exact comparisons read as rational numbers.

Printing and reading floats compare numbers `a · 2^i · 10^j` exactly, on naturals, by dividing
both sides by the smaller power of each base; they take floors of such numbers, the number of
decimal digits of a natural, and a quotient of naturals rounded to the nearest natural with ties
to even. Each of these is here the rational operation it computes, so that the arguments about
printing and reading can be made over `ℚ`. -/

namespace Gaze.Decimal

/-- The rational number `a · 2^i · 10^j`. -/
def scaled (a : ℕ) (i j : ℤ) : ℚ := a * 2 ^ i * 10 ^ j

/-- A power with a nonnegative exponent, computed on naturals, is the rational power. -/
theorem natCast_pow_toNat (b : ℕ) {z : ℤ} (hz : 0 ≤ z) :
    ((Nat.pow b z.toNat : ℕ) : ℚ) = (b : ℚ) ^ z := by
  rw [Nat.pow_eq, Nat.cast_pow, ← zpow_natCast, Int.toNat_of_nonneg hz]

theorem zpow_eq_toNat_div {b : ℚ} (hb : b ≠ 0) (z : ℤ) :
    b ^ z = b ^ z.toNat / b ^ (-z).toNat := by
  conv_lhs => rw [← Int.toNat_sub_toNat_neg z]
  rw [zpow_sub₀ hb, zpow_natCast, zpow_natCast]

/-- A scaled number is a natural times the powers it was divided by. -/
theorem scaled_eq_mul (a : ℕ) {i j i₀ j₀ : ℤ} (hi : i₀ ≤ i) (hj : j₀ ≤ j) :
    scaled a i j = ((a * Nat.pow 2 (i - i₀).toNat * Nat.pow 10 (j - j₀).toNat : ℕ) : ℚ) *
      (2 ^ i₀ * 10 ^ j₀) := by
  have h2 := natCast_pow_toNat 2 (sub_nonneg.mpr hi)
  have h10 := natCast_pow_toNat 10 (sub_nonneg.mpr hj)
  push_cast at h2 h10 ⊢
  rw [h2, h10, scaled, zpow_sub₀ two_ne_zero, zpow_sub₀ (by norm_num : (10 : ℚ) ≠ 0)]
  field_simp

@[simp] theorem scaled_zero_zero (a : ℕ) : scaled a 0 0 = a := by simp [scaled]

@[simp] theorem scaled_zero_right (a : ℕ) (i : ℤ) : scaled a i 0 = a * 2 ^ i := by simp [scaled]

@[simp] theorem scaled_zero_left (a : ℕ) (j : ℤ) : scaled a 0 j = a * 10 ^ j := by simp [scaled]

theorem scaled_pos {a : ℕ} (ha : 0 < a) (i j : ℤ) : 0 < scaled a i j := by
  unfold scaled
  positivity

/-- The exact comparison of scaled numbers is the comparison of the rationals. -/
theorem compareScaled_eq_lt {a b : ℕ} {i j k l : ℤ} :
    compareScaled a i j b k l = .lt ↔ scaled a i j < scaled b k l := by
  unfold compareScaled
  rw [Nat.compare_eq_lt, scaled_eq_mul a (min_le_left i k) (min_le_left j l),
    scaled_eq_mul b (min_le_right i k) (min_le_right j l),
    mul_lt_mul_iff_of_pos_right (by positivity), Nat.cast_lt]

theorem compareScaled_eq_gt {a b : ℕ} {i j k l : ℤ} :
    compareScaled a i j b k l = .gt ↔ scaled b k l < scaled a i j := by
  unfold compareScaled
  rw [Nat.compare_eq_gt, scaled_eq_mul a (min_le_left i k) (min_le_left j l),
    scaled_eq_mul b (min_le_right i k) (min_le_right j l),
    mul_lt_mul_iff_of_pos_right (by positivity), Nat.cast_lt]

/-- The floor of a scaled number is the floor of the rational. -/
theorem floorScaled_eq (a : ℕ) (i j : ℤ) : floorScaled a i j = ⌊scaled a i j⌋₊ := by
  unfold floorScaled
  rw [← @Nat.floor_div_eq_div ℚ]
  congr 1
  simp only [Nat.pow_eq]
  push_cast
  rw [scaled, zpow_eq_toNat_div two_ne_zero, zpow_eq_toNat_div (by norm_num : (10 : ℚ) ≠ 0)]
  field_simp

/-- The two points of the grid `10^k` around `c · 2^t`. -/
theorem floorScaled_bracket (c : ℕ) (t k : ℤ) :
    (floorScaled c t (-k) : ℚ) * 10 ^ k ≤ c * 2 ^ t ∧
      (c : ℚ) * 2 ^ t < (floorScaled c t (-k) + 1) * 10 ^ k := by
  have hpk : (0 : ℚ) < 10 ^ k := by positivity
  have hscaled : scaled c t (-k) = c * 2 ^ t / 10 ^ k := by
    rw [scaled, zpow_neg, div_eq_mul_inv]
  have h1 := Nat.floor_le (by unfold scaled; positivity : 0 ≤ scaled c t (-k))
  have h2 := Nat.lt_floor_add_one (scaled c t (-k))
  rw [← floorScaled_eq, hscaled] at h1 h2
  exact ⟨(le_div_iff₀ hpk).mp h1, (div_lt_iff₀ hpk).mp h2⟩

/-- The count of decimal places is Mathlib's logarithm to base ten. -/
theorem log10_eq_log (n : ℕ) : log10 n = Nat.log 10 n := by
  induction n using log10.induct with
  | case1 n hn => rw [log10, dif_pos hn, Nat.log_of_lt hn]
  | case2 n hn ih =>
    rw [log10, dif_neg hn, ih, Nat.log_div_base]
    have := Nat.log_pos (by norm_num : 1 < 10) (by omega : 10 ≤ n)
    omega

/-- Every binary64 magnitude is above `10^-330`: the half of the least subnormal is. -/
theorem ten_zpow_lt_two_zpow : (10 : ℚ) ^ (-330 : ℤ) < 2 ^ (-1075 : ℤ) := by
  rw [zpow_neg, zpow_neg, inv_lt_inv₀ (by positivity) (by positivity)]
  -- in blocks of five, each small enough for `norm_num`
  calc (2 : ℚ) ^ (1075 : ℤ) = (2 ^ 215) ^ 5 := by rw [zpow_ofNat, ← pow_mul]
    _ < (10 ^ 66) ^ 5 := by gcongr; norm_num
    _ = 10 ^ (330 : ℤ) := by rw [zpow_ofNat, ← pow_mul]

/-- `N / D` rounds to `M` when it lies less than half away from `M`, or exactly half away and
`M` is even. -/
theorem roundHalfEven_eq {N D M : ℕ} (hD : 0 < D)
    (h : (2 * (M * D) < 2 * N + D ∧ 2 * N < 2 * (M * D) + D) ∨
      (M % 2 = 0 ∧ (2 * N = 2 * (M * D) + D ∨ 2 * N + D = 2 * (M * D)))) :
    roundHalfEven N D = M := by
  unfold roundHalfEven
  simp only
  have hN := Nat.div_add_mod N D
  have hr := Nat.mod_lt N hD
  generalize N / D = q at hN ⊢
  generalize N % D = r at hN hr ⊢
  subst hN
  rw [Nat.mul_comm D q] at h
  -- the quotient is the target or one below it
  have hq : q ≤ M ∧ M ≤ q + 1 := by
    constructor
    · by_contra hlt
      have : (M + 1) * D ≤ q * D := Nat.mul_le_mul_right D (by omega)
      rcases h with h | ⟨-, h | h⟩ <;> nlinarith
    · by_contra hlt
      have : (q + 2) * D ≤ M * D := Nat.mul_le_mul_right D (by omega)
      rcases h with h | ⟨-, h | h⟩ <;> nlinarith
  rcases (show M = q ∨ M = q + 1 by omega) with rfl | rfl
  · generalize M * D = P at h
    split_ifs <;> omega
  · rw [show (q + 1) * D = q * D + D from Nat.succ_mul q D] at h
    generalize q * D = P at h
    split_ifs <;> omega

/-- `u` rounds to the natural `M`, ties to even: it lies less than half away from `M`, or
exactly half away with `M` even. -/
def RoundsTo (u : ℚ) (M : ℕ) : Prop :=
  ((M : ℚ) - 1 / 2 < u ∧ u < M + 1 / 2) ∨ (M % 2 = 0 ∧ (u = M + 1 / 2 ∨ u = M - 1 / 2))

theorem RoundsTo.bounds {u : ℚ} {M : ℕ} (h : RoundsTo u M) :
    (M : ℚ) - 1 / 2 ≤ u ∧ u ≤ M + 1 / 2 := by
  rcases h with ⟨h1, h2⟩ | ⟨-, rfl | rfl⟩ <;> constructor <;> linarith

/-- Between the two halves around an even `M`, ends included, everything rounds to `M`. -/
theorem roundsTo_of_le {u : ℚ} {M : ℕ} (hM : M % 2 = 0) (h1 : (M : ℚ) - 1 / 2 ≤ u)
    (h2 : u ≤ M + 1 / 2) : RoundsTo u M := by
  rcases h1.lt_or_eq with h1 | h1
  · rcases h2.lt_or_eq with h2 | h2
    · exact .inl ⟨h1, h2⟩
    · exact .inr ⟨hM, .inl h2⟩
  · exact .inr ⟨hM, .inr h1.symm⟩

/-- The rounding of a quotient of naturals, with the distance measured on the quotient. -/
theorem roundHalfEven_eq_of_roundsTo {N D M : ℕ} (hD : 0 < D) (h : RoundsTo ((N : ℚ) / D) M) :
    roundHalfEven N D = M := by
  have hDq : (0 : ℚ) < D := by exact_mod_cast hD
  apply roundHalfEven_eq hD
  rcases h with ⟨h1, h2⟩ | ⟨he, h | h⟩
  · rw [lt_div_iff₀ hDq] at h1
    rw [div_lt_iff₀ hDq] at h2
    left
    constructor
    · exact_mod_cast (by linarith : (2 * (M * D) : ℚ) < 2 * N + D)
    · exact_mod_cast (by linarith : (2 * N : ℚ) < 2 * (M * D) + D)
  · rw [div_eq_iff hDq.ne'] at h
    exact .inr ⟨he, .inl (by exact_mod_cast (by linarith : (2 * N : ℚ) = 2 * (M * D) + D))⟩
  · rw [div_eq_iff hDq.ne'] at h
    exact .inr ⟨he, .inr (by exact_mod_cast (by linarith : (2 * N + D : ℚ) = 2 * (M * D)))⟩

end Gaze.Decimal

/-! ### Rounding intervals -/

namespace Gaze.RoundingInterval

open Decimal

/-- The rationals that an interval holds: those between its ends, and the ends themselves when
it is closed. -/
def Mem (r : RoundingInterval) (x : ℚ) : Prop :=
  if r.closed then scaled (r.center - r.below) r.exponent 0 ≤ x ∧
    x ≤ scaled (r.center + r.above) r.exponent 0
  else scaled (r.center - r.below) r.exponent 0 < x ∧ x < scaled (r.center + r.above) r.exponent 0

section OfMagnitude

variable {m : ℕ} {e : ℤ}

theorem ofMagnitude_of_normal (he : e ≠ -1075) (hm : m ≠ 2 ^ 52) :
    ofMagnitude m e = ⟨2 * m, 1, 1, e - 1, m % 2 == 0⟩ := by
  rw [ofMagnitude, if_neg he, if_neg (by rw [Nat.pow_eq]; exact hm)]

theorem ofMagnitude_of_power (he : e ≠ -1075) :
    ofMagnitude (2 ^ 52) e = ⟨4 * 2 ^ 52, 1, 2, e - 2, true⟩ := by
  rw [ofMagnitude, if_neg he, if_pos Nat.pow_eq.symm]
  rfl

theorem ofMagnitude_of_subnormal : ofMagnitude m (-1075) = ⟨m, 1, 1, -1075, m % 2 == 0⟩ := by
  rw [ofMagnitude, if_pos rfl]

end OfMagnitude

theorem Mem.le {r : RoundingInterval} {x : ℚ} (h : r.Mem x) :
    scaled (r.center - r.below) r.exponent 0 ≤ x ∧
      x ≤ scaled (r.center + r.above) r.exponent 0 := by
  unfold Mem at h
  split at h
  · exact h
  · exact ⟨h.1.le, h.2.le⟩

/-- An interval whose lower end lies above zero holds only positive numbers. -/
theorem Mem.pos {r : RoundingInterval} {x : ℚ} (hb : r.below < r.center) (h : r.Mem x) : 0 < x :=
  (scaled_pos (by omega) _ _).trans_le h.le.1

theorem Mem.of_lt {r : RoundingInterval} {x : ℚ}
    (h1 : scaled (r.center - r.below) r.exponent 0 < x)
    (h2 : x < scaled (r.center + r.above) r.exponent 0) : r.Mem x := by
  unfold Mem
  split
  · exact ⟨h1.le, h2.le⟩
  · exact ⟨h1, h2⟩

theorem Mem.lt {r : RoundingInterval} {x : ℚ} (h : r.Mem x) (hc : r.closed = false) :
    scaled (r.center - r.below) r.exponent 0 < x ∧
      x < scaled (r.center + r.above) r.exponent 0 := by
  unfold Mem at h
  rwa [if_neg (by simp [hc])] at h

section Scale

variable {r : RoundingInterval} {x p lo hi : ℚ}

/-- Measured in units of `p`, a number the interval holds lies between its ends. -/
theorem Mem.div_le (h : r.Mem x) (hp : 0 < p)
    (hlo : scaled (r.center - r.below) r.exponent 0 / p = lo)
    (hhi : scaled (r.center + r.above) r.exponent 0 / p = hi) : lo ≤ x / p ∧ x / p ≤ hi := by
  obtain ⟨h1, h2⟩ := h.le
  rw [← hlo, ← hhi]
  exact ⟨div_le_div_of_nonneg_right h1 hp.le, div_le_div_of_nonneg_right h2 hp.le⟩

theorem Mem.div_lt (h : r.Mem x) (hp : 0 < p) (hc : r.closed = false)
    (hlo : scaled (r.center - r.below) r.exponent 0 / p = lo)
    (hhi : scaled (r.center + r.above) r.exponent 0 / p = hi) : lo < x / p ∧ x / p < hi := by
  obtain ⟨h1, h2⟩ := h.lt hc
  rw [← hlo, ← hhi]
  exact ⟨div_lt_div_of_pos_right h1 hp, div_lt_div_of_pos_right h2 hp⟩

end Scale

/-- The exact test of a decimal against an interval is membership of its value. -/
theorem contains_iff (r : RoundingInterval) (d : ℕ) (k : ℤ) :
    r.contains d k = true ↔ r.Mem (scaled d 0 k) := by
  unfold contains Mem
  split <;> simp [compareScaled_eq_gt, compareScaled_eq_lt]

end Gaze.RoundingInterval

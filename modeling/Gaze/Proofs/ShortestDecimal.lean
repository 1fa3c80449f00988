import Gaze.Proofs.NearestWord

/-! The shortest decimal of a word lies in its rounding interval.

The printer looks for the decimal to write on the grids `10^(top - i)` for `i` from 0 to 16,
where `top` is the place of the leading digit of the magnitude. On each grid it takes one of the
two points around the magnitude that lie in the interval, if either does. The interval of a
nonzero mantissa below `10^16` is wider than the sixteenth grid below the leading digit, and on a
grid finer than the interval one of the two points around its center always lies inside, so the
search never falls through to its fallback. What it finds is in the interval, and dropping its
trailing zeros keeps the value and moves the last digit up: the decimal written for a word has
its last digit at a place of at least `-346`. -/

namespace Gaze

namespace Decimal

/-- Dropping trailing zeros keeps the value and never lowers the exponent. -/
theorem trim_value (D : Decimal) :
    (D.trim.digits : ℚ) * 10 ^ D.trim.exponent = D.digits * 10 ^ D.exponent ∧
      D.exponent ≤ D.trim.exponent := by
  induction D using trim.induct with
  | case1 D h ih =>
    rw [trim, dif_pos h]
    obtain ⟨hv, he⟩ := ih
    refine ⟨?_, by simp only at he; omega⟩
    rw [hv]
    obtain ⟨q, hq⟩ := Nat.dvd_of_mod_eq_zero h.2
    simp only [hq, Nat.mul_div_cancel_left q (by norm_num : 0 < 10),
      zpow_add_one₀ (by norm_num : (10 : ℚ) ≠ 0)]
    push_cast
    ring
  | case2 D h =>
    rw [trim, dif_neg h]
    exact ⟨rfl, le_rfl⟩

theorem leadingPlace_ge (c : ℕ) (e : ℤ) : -330 ≤ leadingPlace c e := by
  unfold leadingPlace
  omega

/-- The leading place of a number of at least `10^-330` is at most its logarithm. -/
theorem zpow_leadingPlace_le {c : ℕ} {e : ℤ} (h : (10 : ℚ) ^ (-330 : ℤ) ≤ c * 2 ^ e) :
    (10 : ℚ) ^ leadingPlace c e ≤ c * 2 ^ e := by
  have h330 : (0 : ℚ) < 10 ^ (330 : ℤ) := by positivity
  -- the floor of the number lifted by `10^330` is at least one
  have hN : 1 ≤ floorScaled c e 330 := by
    rw [floorScaled_eq, Nat.one_le_floor_iff, scaled]
    rw [zpow_neg, inv_le_iff_one_le_mul₀ h330] at h
    linarith
  have hle :
      ((10 ^ Nat.log 10 (floorScaled c e 330) : ℕ) : ℚ) ≤ c * 2 ^ e * 10 ^ (330 : ℤ) := by
    calc ((10 ^ Nat.log 10 (floorScaled c e 330) : ℕ) : ℚ) ≤ (floorScaled c e 330 : ℚ) :=
          by exact_mod_cast Nat.pow_log_le_self 10 (by omega)
      _ ≤ c * 2 ^ e * 10 ^ (330 : ℤ) := by
          rw [floorScaled_eq]
          exact Nat.floor_le (by unfold scaled; positivity)
  unfold leadingPlace
  rw [log10_eq_log, zpow_sub₀ (by norm_num), zpow_natCast, div_le_iff₀ h330]
  exact_mod_cast hle

end Decimal

namespace RoundingInterval

open Decimal

variable {r : RoundingInterval} {k : ℤ}

theorem onGrid_eq_some {D : Decimal} (h : r.onGrid k = some D) :
    D.exponent = k ∧ r.Mem (D.digits * 10 ^ D.exponent) := by
  suffices hc : D.exponent = k ∧ r.contains D.digits k = true by
    obtain ⟨he, hc⟩ := hc
    rw [contains_iff, scaled_zero_left] at hc
    exact ⟨he, he ▸ hc⟩
  unfold onGrid at h
  dsimp only at h
  split_ifs at h with hboth hdown hup
  · rw [Bool.and_eq_true] at hboth
    split at h
    · cases h
      exact ⟨rfl, hboth.1⟩
    · cases h
      exact ⟨rfl, hboth.2⟩
  · cases h
    exact ⟨rfl, hdown⟩
  · cases h
    exact ⟨rfl, hup⟩

theorem onGrid_isSome_of_contains
    (h : r.contains (floorScaled r.center r.exponent (-k)) k = true ∨
      r.contains (floorScaled r.center r.exponent (-k) + 1) k = true) :
    (r.onGrid k).isSome := by
  unfold onGrid
  dsimp only
  split_ifs with hboth hdown hup
  · split <;> rfl
  · rfl
  · rfl
  · rcases h with h | h <;> contradiction

/-- On a grid finer than the interval is wide, one of the two grid points around the center lies
inside: the upper one when it is below the upper end, and the lower one otherwise. -/
theorem onGrid_isSome (hb : r.below ≤ r.center) (ha : 0 < r.above)
    (hk : (10 : ℚ) ^ k < (r.below + r.above) * 2 ^ r.exponent) : (r.onGrid k).isSome := by
  have hp : (0 : ℚ) < 2 ^ r.exponent := by positivity
  have ha' : (1 : ℚ) ≤ r.above := by exact_mod_cast ha
  have hlo : scaled (r.center - r.below) r.exponent 0 =
      r.center * 2 ^ r.exponent - r.below * 2 ^ r.exponent := by
    rw [scaled_zero_right, Nat.cast_sub hb]
    ring
  have hhi : scaled (r.center + r.above) r.exponent 0 =
      r.center * 2 ^ r.exponent + r.above * 2 ^ r.exponent := by
    rw [scaled_zero_right, Nat.cast_add]
    ring
  obtain ⟨hf1, hf2⟩ := floorScaled_bracket r.center r.exponent k
  apply onGrid_isSome_of_contains
  rw [contains_iff, contains_iff, scaled_zero_left, scaled_zero_left]
  set f := floorScaled r.center r.exponent (-k)
  by_cases hup : ((f + 1 : ℕ) : ℚ) * 10 ^ k < scaled (r.center + r.above) r.exponent 0
  · -- the upper point lies above the center and below the upper end
    right
    refine Mem.of_lt ?_ hup
    rw [hlo]
    push_cast
    nlinarith
  · -- otherwise the lower point lies less than the width below the upper end
    left
    rw [not_lt, hhi] at hup
    push_cast at hup
    refine Mem.of_lt ?_ ?_
    · rw [hlo]
      nlinarith
    · rw [hhi]
      nlinarith

/-- The shortest decimal of an interval at most `10^16` units of its width across, around a
number of at least `10^-330`, lies in the interval, with its last digit at a place of at least
`-346`: the grid sixteen places below the leading digit is finer than the interval, so the
search finds a decimal at one of its seventeen grids, and dropping trailing zeros keeps it. -/
theorem shortest_mem (hb : r.below ≤ r.center) (ha : 0 < r.above)
    (hw : r.center < (r.below + r.above) * 10 ^ 16)
    (hlow : (10 : ℚ) ^ (-330 : ℤ) ≤ r.center * 2 ^ r.exponent) :
    r.Mem (r.shortest.digits * 10 ^ r.shortest.exponent) ∧ -346 ≤ r.shortest.exponent := by
  have hp : (0 : ℚ) < 2 ^ r.exponent := by positivity
  have htop := zpow_leadingPlace_le hlow
  -- the last grid tried is finer than the interval
  have hfine : (10 : ℚ) ^ (leadingPlace r.center r.exponent - ((16 : ℕ) : ℤ)) <
      (r.below + r.above) * 2 ^ r.exponent := by
    have hw' : (r.center : ℚ) < (r.below + r.above) * 10 ^ 16 := by exact_mod_cast hw
    rw [zpow_sub₀ (by norm_num), zpow_natCast, div_lt_iff₀ (by positivity)]
    calc (10 : ℚ) ^ leadingPlace r.center r.exponent ≤ r.center * 2 ^ r.exponent := htop
      _ < (r.below + r.above) * 10 ^ 16 * 2 ^ r.exponent := by gcongr
      _ = (r.below + r.above) * 2 ^ r.exponent * 10 ^ 16 := by ring
  have hlast := onGrid_isSome hb ha hfine
  obtain ⟨D, hD⟩ : ∃ D, (List.range 17).findSome?
      (fun (i : ℕ) => r.onGrid (leadingPlace r.center r.exponent - i)) = some D := by
    rw [← Option.isSome_iff_exists, Option.isSome_iff_ne_none, Ne, List.findSome?_eq_none_iff]
    intro hall
    rw [hall 16 (by simp)] at hlast
    exact Bool.false_ne_true hlast
  obtain ⟨i, hi, hiD⟩ := List.exists_of_findSome?_eq_some hD
  obtain ⟨hexp, hmem⟩ := onGrid_eq_some hiD
  obtain ⟨hval, hle⟩ := trim_value D
  have hshort : r.shortest = D.trim := by
    unfold shortest
    dsimp only
    rw [hD]
  have hplace := leadingPlace_ge r.center r.exponent
  rw [List.mem_range] at hi
  rw [hshort, hval]
  exact ⟨hmem, by omega⟩

theorem ofMagnitude_center (m : ℕ) (e : ℤ) :
    ((ofMagnitude m e).center : ℚ) * 2 ^ (ofMagnitude m e).exponent = m * 2 ^ e := by
  unfold ofMagnitude
  split_ifs
  · rfl
  · dsimp only
    rw [zpow_sub₀ two_ne_zero]
    push_cast
    field_simp
  · dsimp only
    rw [zpow_sub_one₀ two_ne_zero]
    push_cast
    field_simp

/-- The interval of a mantissa from 2 to below `10^16` reaches one unit down and one or two
up, and its center is less than `10^16` times its width. -/
theorem ofMagnitude_width {m : ℕ} (e : ℤ) (hm1 : 1 < m) (hm : m < 10 ^ 16) :
    (ofMagnitude m e).below < (ofMagnitude m e).center ∧ 0 < (ofMagnitude m e).above ∧
      (ofMagnitude m e).center <
        ((ofMagnitude m e).below + (ofMagnitude m e).above) * 10 ^ 16 := by
  unfold ofMagnitude
  split_ifs with he hp
  · dsimp only
    omega
  · dsimp only
    rw [hp]
    norm_num
  · dsimp only
    omega

/-- The shortest decimal of a magnitude `m · 2^e` of at least `2^-1075`, with a mantissa from 2 to
below `10^16`, lies in its rounding interval, with its last digit at a place of at least
`-346`. -/
theorem shortest_ofMagnitude_mem {m : ℕ} {e : ℤ} (hm1 : 1 < m) (hm : m < 10 ^ 16)
    (hlow : (2 : ℚ) ^ (-1075 : ℤ) ≤ m * 2 ^ e) :
    (ofMagnitude m e).Mem
        ((ofMagnitude m e).shortest.digits * 10 ^ (ofMagnitude m e).shortest.exponent) ∧
      -346 ≤ (ofMagnitude m e).shortest.exponent := by
  obtain ⟨hb, ha, hw⟩ := ofMagnitude_width e hm1 hm
  refine shortest_mem hb.le ha hw ?_
  rw [ofMagnitude_center]
  exact ten_zpow_lt_two_zpow.le.trans hlow

end RoundingInterval

end Gaze

import Gaze.Proofs.FloatWord
import Gaze.Proofs.ScaledNumbers

/-! Reading a decimal inside a word's rounding interval.

The reader of decimals rounds `d · 10^k` once, at the binary exponent of its leading bit less 52
or at the subnormal unit `2^-1074`, and packs the rounded mantissa into a word. Everything in the
rounding interval of a nonzero finite word reads back to that word's magnitude. For a normal
word the interval reaches half a unit to each side, with its ends for an even mantissa, and
rounding to the nearest mantissa with ties to even gives the mantissa back. Below a power of two
the interval reaches only a quarter unit down, and from there the rounding, at the finer unit of
the binade below, carries into the power of two. A subnormal interval always holds its ends, since
its mantissa is the fraction doubled; its ends are odd multiples of `2^-1075`, which no decimal
with an exponent of at least `-1074` can be, so the rounding there is never a tie. -/

namespace Gaze

/-! ### The reader's steps as definitions -/

namespace Decimal

/-- The word of the rounded mantissa `m` in units of `2^q`: a mantissa that reached `2^53` is
halved into the next binade, exponents past the largest finite word give infinity, and a
mantissa below the hidden bit is a subnormal fraction. -/
def packRounded (m : ℕ) (q : ℤ) : UInt64 :=
  let (m, q) := if m = Nat.pow 2 53 then (Nat.pow 2 52, q + 1) else (m, q)
  if 971 < q then 0x7FF0000000000000
  else if m < Nat.pow 2 52 then m.toUInt64
  else ((q + 1075).toNat * Nat.pow 2 52 + (m - Nat.pow 2 52)).toUInt64

/-- The exponent of the leading bit of `num / den`: the difference of the bit lengths, one less
when the quotient lies below that power of two. -/
def binaryExponent (num den : ℕ) : ℤ :=
  let shift : ℤ := (Nat.log2 num : ℤ) - (Nat.log2 den : ℤ)
  if compareScaled num 0 0 den shift 0 == .lt then shift - 1 else shift

/-- Between its fast paths the reader rounds at the binary exponent of the quotient and packs the
result. -/
theorem nearestBits_eq_packRounded {d : ℕ} {k : ℤ} (hd : d ≠ 0)
    (hlo : -330 < (log10 d : ℤ) + 1 + k) (hhi : (log10 d : ℤ) + 1 + k ≤ 310) :
    nearestBits d k =
      let num := d * Nat.pow 10 k.toNat
      let den := Nat.pow 10 (-k).toNat
      let q := max (binaryExponent num den - 52) (-1074)
      packRounded (roundHalfEven (num * Nat.pow 2 (-q).toNat) (den * Nat.pow 2 q.toNat)) q := by
  unfold nearestBits
  rw [if_neg (by omega), if_neg (by omega)]
  unfold packRounded binaryExponent
  simp only []

theorem packRounded_normal {M : ℕ} {Q : ℤ} (hM1 : 2 ^ 52 ≤ M) (hM2 : M < 2 ^ 53)
    (hQ1 : -1074 ≤ Q) (hQ2 : Q ≤ 971) :
    (packRounded M Q).toNat = (Q + 1075).toNat * 2 ^ 52 + (M - 2 ^ 52) := by
  have hne : M ≠ Nat.pow 2 53 := by rw [Nat.pow_eq]; omega
  have hge : ¬M < Nat.pow 2 52 := by rw [Nat.pow_eq]; omega
  simp only [packRounded, if_neg hne, if_neg (not_lt.mpr hQ2), if_neg hge, Nat.pow_eq]
  rw [Nat.toUInt64_eq, UInt64.toNat_ofNat']
  apply Nat.mod_eq_of_lt
  have : (Q + 1075).toNat ≤ 2046 := by omega
  omega

/-- A mantissa that rounded up to `2^53` packs as the hidden bit of the next binade. -/
theorem packRounded_carry {Q : ℤ} (hQ1 : -1073 ≤ Q) (hQ2 : Q ≤ 971) :
    (packRounded (2 ^ 53) (Q - 1)).toNat = (Q + 1075).toNat * 2 ^ 52 := by
  unfold packRounded
  rw [if_pos Nat.pow_eq.symm]
  simp only [sub_add_cancel]
  rw [if_neg (not_lt.mpr hQ2), if_neg (lt_irrefl _), Nat.sub_self, Nat.add_zero, Nat.pow_eq,
    Nat.toUInt64_eq, UInt64.toNat_ofNat']
  apply Nat.mod_eq_of_lt
  have : (Q + 1075).toNat ≤ 2046 := by omega
  omega

theorem packRounded_subnormal {M : ℕ} {Q : ℤ} (hM : M < 2 ^ 52) (hQ : Q ≤ 971) :
    (packRounded M Q).toNat = M := by
  have hne : M ≠ Nat.pow 2 53 := by rw [Nat.pow_eq]; omega
  have hlt : M < Nat.pow 2 52 := by rw [Nat.pow_eq]; exact hM
  simp only [packRounded, if_neg hne, if_neg (not_lt.mpr hQ), if_pos hlt]
  rw [Nat.toUInt64_eq, UInt64.toNat_ofNat']
  exact Nat.mod_eq_of_lt (by omega)

/-! ### The binary exponent and the rounded quotient -/

/-- The binary exponent lies at the power of two at or below the quotient. -/
theorem binaryExponent_spec {num den : ℕ} (hn : 0 < num) (hd : 0 < den) :
    (2 : ℚ) ^ binaryExponent num den ≤ num / den ∧
      (num : ℚ) / den < 2 ^ (binaryExponent num den + 1) := by
  have hdq : (0 : ℚ) < den := by exact_mod_cast hd
  unfold binaryExponent
  simp only []
  -- the bit lengths bracket numerator and denominator
  have hn1 : (2 : ℚ) ^ (num.log2 : ℤ) ≤ num := by
    rw [zpow_natCast]; exact_mod_cast Nat.log2_self_le hn.ne'
  have hn2 : (num : ℚ) < 2 ^ ((num.log2 : ℤ) + 1) := by
    rw [← Nat.cast_succ, zpow_natCast]; exact_mod_cast Nat.lt_log2_self
  have hd1 : (2 : ℚ) ^ (den.log2 : ℤ) ≤ den := by
    rw [zpow_natCast]; exact_mod_cast Nat.log2_self_le hd.ne'
  have hd2 : (den : ℚ) < 2 ^ ((den.log2 : ℤ) + 1) := by
    rw [← Nat.cast_succ, zpow_natCast]; exact_mod_cast Nat.lt_log2_self
  generalize (num.log2 : ℤ) = a at hn1 hn2 ⊢
  generalize (den.log2 : ℤ) = b at hd1 hd2 ⊢
  split
  · -- the quotient is below `2^(a - b)`, and above `2^a / 2^(b + 1)`
    rename_i hlt
    rw [beq_iff_eq, compareScaled_eq_lt, scaled_zero_zero, scaled_zero_right] at hlt
    refine ⟨?_, ?_⟩
    · rw [le_div_iff₀ hdq]
      calc (2 : ℚ) ^ (a - b - 1) * den ≤ 2 ^ (a - b - 1) * 2 ^ (b + 1) := by gcongr
        _ = 2 ^ a := by rw [← zpow_add₀ two_ne_zero]; ring_nf
        _ ≤ num := hn1
    · rw [sub_add_cancel, div_lt_iff₀ hdq, mul_comm]
      exact hlt
  · rename_i hge
    rw [beq_iff_eq, compareScaled_eq_lt, scaled_zero_zero, scaled_zero_right, not_lt] at hge
    refine ⟨by rw [le_div_iff₀ hdq, mul_comm]; exact hge, ?_⟩
    rw [div_lt_iff₀ hdq]
    calc (num : ℚ) < 2 ^ (a + 1) := hn2
      _ = 2 ^ (a - b + 1) * 2 ^ b := by rw [← zpow_add₀ two_ne_zero]; ring_nf
      _ ≤ 2 ^ (a - b + 1) * den := by gcongr

theorem binaryExponent_eq {num den : ℕ} (hn : 0 < num) (hd : 0 < den) {t : ℤ}
    (h1 : (2 : ℚ) ^ t ≤ num / den) (h2 : (num : ℚ) / den < 2 ^ (t + 1)) :
    binaryExponent num den = t := by
  obtain ⟨he1, he2⟩ := binaryExponent_spec hn hd
  have hlt1 := (zpow_lt_zpow_iff_right₀ (by norm_num : (1 : ℚ) < 2)).mp (he1.trans_lt h2)
  have hlt2 := (zpow_lt_zpow_iff_right₀ (by norm_num : (1 : ℚ) < 2)).mp (h1.trans_lt he2)
  omega

theorem num_div_den (d : ℕ) (k : ℤ) :
    ((d * Nat.pow 10 k.toNat : ℕ) : ℚ) / (Nat.pow 10 (-k).toNat : ℕ) = d * 10 ^ k := by
  simp only [Nat.pow_eq]
  push_cast
  rw [zpow_eq_toNat_div (by norm_num : (10 : ℚ) ≠ 0) k]
  ring

theorem scaled_quotient (num den : ℕ) (q : ℤ) :
    ((num * Nat.pow 2 (-q).toNat : ℕ) : ℚ) / (den * Nat.pow 2 q.toNat : ℕ) =
      (num / den) / 2 ^ q := by
  simp only [Nat.pow_eq]
  push_cast
  rw [zpow_eq_toNat_div two_ne_zero q]
  field_simp

end Decimal

/-! ### Rounding intervals in units of the word's exponent -/

namespace RoundingInterval

open Decimal

variable {m : ℕ} {e : ℤ} {x : ℚ}

/-- The interval of a normal word whose mantissa is not the hidden bit alone reaches half a unit
to each side, and holds its ends for an even mantissa: what it holds rounds to the mantissa. -/
theorem roundsTo_of_mem_normal (he : e ≠ -1075) (hm : m ≠ 2 ^ 52) (hm0 : 0 < m)
    (h : (ofMagnitude m e).Mem x) : RoundsTo (x / 2 ^ e) m := by
  -- the ends `(2m ∓ 1) · 2^(e - 1)` are `(m ∓ 1/2) · 2^e`
  have hlo : scaled (2 * m - 1) (e - 1) 0 / 2 ^ e = m - 1 / 2 := by
    rw [scaled_zero_right, zpow_sub_one₀ two_ne_zero, Nat.cast_sub (by omega)]
    field_simp
    push_cast
    ring
  have hhi : scaled (2 * m + 1) (e - 1) 0 / 2 ^ e = m + 1 / 2 := by
    rw [scaled_zero_right, zpow_sub_one₀ two_ne_zero]
    field_simp
    push_cast
    ring
  rw [ofMagnitude_of_normal he hm] at h
  rcases Nat.mod_two_eq_zero_or_one m with hev | hodd
  · obtain ⟨h1, h2⟩ := h.div_le (by positivity) hlo hhi
    exact roundsTo_of_le hev h1 h2
  · exact .inl (h.div_lt (by positivity) (by simp [hodd]) hlo hhi)

/-- Below a power of two the lower neighbour is twice as near: the interval of a normal word
whose mantissa is the hidden bit alone reaches a quarter unit down and half a unit up. -/
theorem bounds_of_mem_power (he : e ≠ -1075) (h : (ofMagnitude (2 ^ 52) e).Mem x) :
    (2 : ℚ) ^ 52 - 1 / 4 ≤ x / 2 ^ e ∧ x / 2 ^ e ≤ 2 ^ 52 + 1 / 2 := by
  rw [ofMagnitude_of_power he] at h
  refine h.div_le (by positivity) ?_ ?_
  · show scaled (4 * 2 ^ 52 - 1) (e - 2) 0 / 2 ^ e = 2 ^ 52 - 1 / 4
    rw [scaled_zero_right, zpow_sub₀ two_ne_zero]
    field_simp
    norm_num
  · show scaled (4 * 2 ^ 52 + 2) (e - 2) 0 / 2 ^ e = 2 ^ 52 + 1 / 2
    rw [scaled_zero_right, zpow_sub₀ two_ne_zero]
    field_simp
    norm_num

/-- A subnormal word `2F · 2^-1075` holds everything within half a unit `2^-1074` of `F`, ends
included: its mantissa, doubled, is always even. -/
theorem bounds_of_mem_subnormal {F : ℕ} (hF : 0 < F) (h : (ofMagnitude (2 * F) (-1075)).Mem x) :
    (F : ℚ) - 1 / 2 ≤ x / 2 ^ (-1074 : ℤ) ∧ x / 2 ^ (-1074 : ℤ) ≤ F + 1 / 2 := by
  have hunit : (2 : ℚ) ^ (-1075 : ℤ) = 2 ^ (-1074 : ℤ) * 2⁻¹ := by
    rw [show (-1075 : ℤ) = -1074 - 1 by norm_num, zpow_sub_one₀ two_ne_zero]
  rw [ofMagnitude_of_subnormal] at h
  refine h.div_le (by positivity) ?_ ?_
  · show scaled (2 * F - 1) (-1075) 0 / 2 ^ (-1074 : ℤ) = F - 1 / 2
    rw [scaled_zero_right, hunit, Nat.cast_sub (by omega)]
    field_simp
    push_cast
    ring
  · show scaled (2 * F + 1) (-1075) 0 / 2 ^ (-1074 : ℤ) = F + 1 / 2
    rw [scaled_zero_right, hunit]
    field_simp
    push_cast
    ring

end RoundingInterval

/-! ### Reading back -/

namespace Decimal

/-- A decimal whose exponent is at least `-t` is never halfway between two multiples of
`2^-t`: it would be an odd multiple of `2^-(t + 1)`. -/
theorem ne_half_of_le_exponent {d t : ℕ} {k : ℤ} (hk : -(t : ℤ) ≤ k) (n : ℕ) :
    (d : ℚ) * 10 ^ k / 2 ^ (-(t : ℤ)) ≠ n + 1 / 2 := by
  intro h
  rw [zpow_neg, zpow_natCast, div_inv_eq_mul] at h
  rcases le_or_gt 0 k with hk0 | hk0
  · -- a nonnegative exponent: `d · 10^k · 2^(t + 1)` is an even natural
    obtain ⟨j, rfl⟩ := Int.eq_ofNat_of_zero_le hk0
    rw [zpow_natCast] at h
    have hnat : d * 10 ^ j * 2 ^ t * 2 = 2 * n + 1 := by
      exact_mod_cast (by linarith : (d : ℚ) * 10 ^ j * 2 ^ t * 2 = 2 * n + 1)
    omega
  · -- a negative exponent `-j`: `d · 2^(t + 1 - j) = (2n + 1) · 5^j`, even against odd
    obtain ⟨j, hj⟩ := Int.exists_eq_neg_ofNat hk0.le
    subst hj
    have hj : j ≤ t := by omega
    have hq : (d : ℚ) * 2 ^ (t + 1) = (2 * n + 1) * 10 ^ j := by
      rw [zpow_neg, zpow_natCast] at h
      field_simp at h
      rw [pow_succ]
      linarith
    have hnat : d * 2 ^ (t + 1 - j) * 2 ^ j = (2 * n + 1) * 5 ^ j * 2 ^ j := by
      rw [mul_assoc, ← pow_add, Nat.sub_add_cancel (by omega), mul_assoc, ← mul_pow]
      exact_mod_cast hq
    have heq := Nat.eq_of_mul_eq_mul_right (by positivity) hnat
    have heven : Even (d * 2 ^ (t + 1 - j)) :=
      (Nat.even_pow.mpr ⟨even_two, by omega⟩).mul_left d
    have hodd : Odd ((2 * n + 1) * 5 ^ j) := (odd_two_mul_add_one n).mul (Odd.pow (by decide))
    rw [heq] at heven
    exact Nat.not_even_iff_odd.mpr hodd heven

/-- A number between `2^-1075` and `2^1024` has between `-329` and `310` decimal places before
the point: neither fast path of the reader applies. -/
theorem width_bounds {d : ℕ} {k : ℤ} (hd : d ≠ 0)
    (hlo : (2 : ℚ) ^ (-1075 : ℤ) ≤ d * 10 ^ k) (hhi : (d : ℚ) * 10 ^ k < 2 ^ (1024 : ℤ)) :
    -330 < (log10 d : ℤ) + 1 + k ∧ (log10 d : ℤ) + 1 + k ≤ 310 := by
  rw [log10_eq_log]
  have h1 : (10 : ℚ) ^ (Nat.log 10 d : ℤ) ≤ d := by
    rw [zpow_natCast]; exact_mod_cast Nat.pow_log_le_self 10 hd
  have h2 : (d : ℚ) < 10 ^ ((Nat.log 10 d : ℤ) + 1) := by
    rw [← Nat.cast_succ, zpow_natCast]; exact_mod_cast Nat.lt_pow_succ_log_self (by norm_num) d
  constructor
  · by_contra hc
    have h3 : (d : ℚ) * 10 ^ k < 10 ^ (-330 : ℤ) := calc
      (d : ℚ) * 10 ^ k < 10 ^ ((Nat.log 10 d : ℤ) + 1) * 10 ^ k := by gcongr
      _ = 10 ^ ((Nat.log 10 d : ℤ) + 1 + k) := (zpow_add₀ (by norm_num) _ _).symm
      _ ≤ 10 ^ (-330 : ℤ) := zpow_le_zpow_right₀ (by norm_num) (by omega)
    exact absurd (hlo.trans_lt (h3.trans ten_zpow_lt_two_zpow)) (lt_irrefl _)
  · by_contra hc
    have h3 : (10 : ℚ) ^ (310 : ℤ) ≤ d * 10 ^ k := calc
      (10 : ℚ) ^ (310 : ℤ) ≤ 10 ^ ((Nat.log 10 d : ℤ) + k) :=
        zpow_le_zpow_right₀ (by norm_num) (by omega)
      _ = 10 ^ (Nat.log 10 d : ℤ) * 10 ^ k := by rw [zpow_add₀ (by norm_num)]
      _ ≤ d * 10 ^ k := by gcongr
    have h4 : (2 : ℚ) ^ (1024 : ℤ) < 10 ^ (310 : ℤ) := by
      rw [zpow_ofNat, zpow_ofNat]
      calc (2 : ℚ) ^ 1024 < 2 ^ 1025 := pow_lt_pow_right₀ (by norm_num) (by norm_num)
        _ = (2 ^ 205) ^ 5 := by rw [← pow_mul]
        _ < (10 ^ 62) ^ 5 := by gcongr; norm_num
        _ = 10 ^ 310 := by rw [← pow_mul]
    exact absurd (hhi.trans (h4.trans_le h3)) (lt_irrefl _)

/-- Between the fast paths, the word read from `d · 10^k` packs the rounding of `d · 10^k` in
units of `2^q`, where `q` is the exponent of its leading bit less 52, but never below the
subnormal unit `2^-1074`. -/
theorem nearestBits_eq_of_roundsTo {d M : ℕ} {k e2 : ℤ} (hlow : -1075 ≤ e2)
    (hhigh : e2 < 1024)
    (he1 : (2 : ℚ) ^ e2 ≤ d * 10 ^ k) (he2 : (d : ℚ) * 10 ^ k < 2 ^ (e2 + 1))
    (hM : RoundsTo (d * 10 ^ k / 2 ^ max (e2 - 52) (-1074)) M) :
    nearestBits d k = packRounded M (max (e2 - 52) (-1074)) := by
  have hlo : (2 : ℚ) ^ (-1075 : ℤ) ≤ d * 10 ^ k :=
    (zpow_le_zpow_right₀ (by norm_num) hlow).trans he1
  have hhi : (d : ℚ) * 10 ^ k < 2 ^ (1024 : ℤ) :=
    he2.trans_le (zpow_le_zpow_right₀ (by norm_num) (by omega))
  have hd : d ≠ 0 := by
    rintro rfl
    rw [Nat.cast_zero, zero_mul] at hlo
    exact absurd hlo (not_le.mpr (by positivity))
  obtain ⟨hw1, hw2⟩ := width_bounds hd hlo hhi
  have hnum : 0 < d * Nat.pow 10 k.toNat :=
    Nat.mul_pos (Nat.pos_of_ne_zero hd) (by simp [Nat.pow_eq])
  have hden : 0 < Nat.pow 10 (-k).toNat := by simp [Nat.pow_eq]
  have hbin : binaryExponent (d * Nat.pow 10 k.toNat) (Nat.pow 10 (-k).toNat) = e2 :=
    binaryExponent_eq hnum hden (by rw [num_div_den]; exact he1) (by rw [num_div_den]; exact he2)
  rw [nearestBits_eq_packRounded hd hw1 hw2]
  dsimp only
  rw [hbin]
  congr 1
  apply roundHalfEven_eq_of_roundsTo (Nat.mul_pos hden (by simp [Nat.pow_eq]))
  rw [scaled_quotient, num_div_den]
  exact hM

theorem bracket_of_div {x : ℚ} {e : ℤ} {n : ℕ} (h1 : (2 : ℚ) ^ n ≤ x / 2 ^ e)
    (h2 : x / 2 ^ e < 2 ^ (n + 1)) : (2 : ℚ) ^ (e + n) ≤ x ∧ x < 2 ^ (e + n + 1) := by
  have hp : (0 : ℚ) < 2 ^ e := by positivity
  rw [le_div_iff₀ hp] at h1
  rw [div_lt_iff₀ hp, pow_succ] at h2
  have ha : (2 : ℚ) ^ (e + n) = 2 ^ n * 2 ^ e := by
    rw [zpow_add₀ two_ne_zero, zpow_natCast, mul_comm]
  have hb : (2 : ℚ) ^ (e + n + 1) = 2 ^ n * 2 * 2 ^ e := by
    rw [zpow_add_one₀ two_ne_zero, ha]
    ring
  rw [ha, hb]
  exact ⟨h1, h2⟩

section Cases

variable {d : ℕ} {k : ℤ}

/-- A number that rounds to a normal mantissa above the hidden bit, in units of `2^e`, reads as
the word of that mantissa and exponent. -/
theorem nearestBits_of_roundsTo_normal {m : ℕ} {e : ℤ} (hm1 : 2 ^ 52 < m) (hm2 : m < 2 ^ 53)
    (he1 : -1074 ≤ e) (he2 : e ≤ 971) (h : RoundsTo (d * 10 ^ k / 2 ^ e) m) :
    (nearestBits d k).toNat = (e + 1075).toNat * 2 ^ 52 + (m - 2 ^ 52) := by
  obtain ⟨h1, h2⟩ := h.bounds
  have hm1' : (2 : ℚ) ^ 52 + 1 ≤ m := by exact_mod_cast hm1
  have hm2' : (m : ℚ) + 1 ≤ 2 ^ 53 := by exact_mod_cast hm2
  -- the leading bit is the hidden bit, at `2^(e + 52)`
  obtain ⟨hb1, hb2⟩ := bracket_of_div (show (2 : ℚ) ^ 52 ≤ d * 10 ^ k / 2 ^ e by linarith)
    (show (d : ℚ) * 10 ^ k / 2 ^ e < 2 ^ (52 + 1) by linarith)
  have hq : max (e + (52 : ℕ) - 52) (-1074) = e := by omega
  rw [nearestBits_eq_of_roundsTo (by omega) (by omega) hb1 hb2 (by rw [hq]; exact h), hq]
  exact packRounded_normal hm1.le hm2 he1 he2

/-- A number within a quarter unit below and half a unit above the hidden bit `2^52`, in units of
`2^e`, reads as the word of the hidden bit alone: from below it rounds up to the next binade, or
to the hidden bit itself at the least normal exponent. -/
theorem nearestBits_of_power {e : ℤ} (he1 : -1074 ≤ e) (he2 : e ≤ 971)
    (h1 : (2 : ℚ) ^ 52 - 1 / 4 ≤ d * 10 ^ k / 2 ^ e)
    (h2 : (d : ℚ) * 10 ^ k / 2 ^ e ≤ 2 ^ 52 + 1 / 2) :
    (nearestBits d k).toNat = (e + 1075).toNat * 2 ^ 52 := by
  have hev : (2 ^ 52 : ℕ) % 2 = 0 := by norm_num
  have h52 : ((2 ^ 52 : ℕ) : ℚ) = 2 ^ 52 := by rw [Nat.cast_pow, Nat.cast_ofNat]
  have h53 : ((2 ^ 53 : ℕ) : ℚ) = 2 ^ 53 := by rw [Nat.cast_pow, Nat.cast_ofNat]
  by_cases hu : (2 : ℚ) ^ 52 ≤ d * 10 ^ k / 2 ^ e
  · -- at or above the hidden bit: the leading bit is `2^(e + 52)`
    obtain ⟨hb1, hb2⟩ := bracket_of_div hu
      (show (d : ℚ) * 10 ^ k / 2 ^ e < 2 ^ (52 + 1) by linarith)
    have hq : max (e + (52 : ℕ) - 52) (-1074) = e := by omega
    have hM : RoundsTo (d * 10 ^ k / 2 ^ max (e + (52 : ℕ) - 52) (-1074)) (2 ^ 52) := by
      rw [hq]
      exact roundsTo_of_le hev (by rw [h52]; linarith) (by rw [h52]; linarith)
    rw [nearestBits_eq_of_roundsTo (by omega) (by omega) hb1 hb2 hM, hq,
      packRounded_normal le_rfl (by norm_num) he1 he2, Nat.sub_self, Nat.add_zero]
  · -- below it: the leading bit is `2^(e + 51)`
    obtain ⟨hb1, hb2⟩ := bracket_of_div
      (show (2 : ℚ) ^ 51 ≤ d * 10 ^ k / 2 ^ e by linarith) (not_le.mp hu)
    rcases he1.eq_or_lt with rfl | hlt
    · -- at the least normal exponent the unit stays `2^-1074`
      have hq : max ((-1074 : ℤ) + (51 : ℕ) - 52) (-1074) = -1074 := by omega
      have hM :
          RoundsTo (d * 10 ^ k / 2 ^ max ((-1074 : ℤ) + (51 : ℕ) - 52) (-1074)) (2 ^ 52) := by
        rw [hq]
        exact roundsTo_of_le hev (by rw [h52]; linarith) (by rw [h52]; linarith)
      rw [nearestBits_eq_of_roundsTo (by omega) (by omega) hb1 hb2 hM, hq,
        packRounded_normal le_rfl (by norm_num) le_rfl (by norm_num), Nat.sub_self, Nat.add_zero]
    · -- otherwise the unit halves, and the rounding carries into the next binade
      have hq : max (e + (51 : ℕ) - 52) (-1074) = e - 1 := by omega
      have hdouble : (d : ℚ) * 10 ^ k / 2 ^ (e - 1) = 2 * (d * 10 ^ k / 2 ^ e) := by
        rw [zpow_sub_one₀ two_ne_zero]
        field_simp
      have hM : RoundsTo (d * 10 ^ k / 2 ^ max (e + (51 : ℕ) - 52) (-1074)) (2 ^ 53) := by
        rw [hq, hdouble]
        exact roundsTo_of_le (by norm_num) (by rw [h53]; linarith) (by rw [h53]; linarith)
      rw [nearestBits_eq_of_roundsTo (by omega) (by omega) hb1 hb2 hM, hq]
      exact packRounded_carry (by omega) he2

/-- A number within half a unit `2^-1074` of a subnormal mantissa `F`, with an exponent of at
least `-1074`, rounds to `F`: it cannot lie exactly halfway. -/
theorem nearestBits_of_subnormal {F : ℕ} (hF1 : 0 < F) (hF2 : F < 2 ^ 52) (hk : -1074 ≤ k)
    (h1 : (F : ℚ) - 1 / 2 ≤ d * 10 ^ k / 2 ^ (-1074 : ℤ))
    (h2 : (d : ℚ) * 10 ^ k / 2 ^ (-1074 : ℤ) ≤ F + 1 / 2) :
    (nearestBits d k).toNat = F := by
  have hp : (0 : ℚ) < 2 ^ (-1074 : ℤ) := by positivity
  have hF1' : (1 : ℚ) ≤ F := by exact_mod_cast hF1
  have hF2' : (F : ℚ) + 1 ≤ 2 ^ 52 := by exact_mod_cast hF2
  have hhalf := @ne_half_of_le_exponent d 1074 k (by simpa using hk)
  simp only [Nat.cast_ofNat] at hhalf
  have hM : RoundsTo (d * 10 ^ k / 2 ^ (-1074 : ℤ)) F := by
    refine .inl ⟨lt_of_le_of_ne h1 fun h => hhalf (F - 1) ?_, lt_of_le_of_ne h2 (hhalf F)⟩
    rw [← h, Nat.cast_sub hF1]
    ring
  -- the number lies from `2^-1075` to below `2^-1022`: its leading bit is below the least
  -- normal exponent, so the unit is `2^-1074`
  rw [le_div_iff₀ hp] at h1
  rw [div_le_iff₀ hp] at h2
  have hx1 : (2 : ℚ) ^ (-1075 : ℤ) ≤ d * 10 ^ k := by
    rw [show (-1075 : ℤ) = -1 + -1074 by norm_num, zpow_add₀ two_ne_zero, zpow_neg_one]
    nlinarith
  have hx2 : (d : ℚ) * 10 ^ k < 2 ^ (-1022 : ℤ) := by
    rw [show (-1022 : ℤ) = (52 : ℕ) + -1074 by norm_num, zpow_add₀ two_ne_zero, zpow_natCast]
    nlinarith
  have hx : (0 : ℚ) < d * 10 ^ k := lt_of_lt_of_le (by positivity) hx1
  have hlog1 := Int.zpow_log_le_self (by norm_num : 1 < 2) hx
  have hlog2 := Int.lt_zpow_succ_log_self (by norm_num : 1 < 2) ((d : ℚ) * 10 ^ k)
  have hlow := (Int.zpow_le_iff_le_log (by norm_num : 1 < 2) hx).mp
    (by rw [Nat.cast_ofNat]; exact hx1)
  have hhigh := (Int.lt_zpow_iff_log_lt (by norm_num : 1 < 2) hx).mp
    (by rw [Nat.cast_ofNat]; exact hx2)
  rw [Nat.cast_ofNat] at hlog1 hlog2
  have hq : max (Int.log 2 ((d : ℚ) * 10 ^ k) - 52) (-1074) = -1074 := by omega
  rw [nearestBits_eq_of_roundsTo hlow (by omega) hlog1 hlog2 (by rw [hq]; exact hM), hq]
  exact packRounded_subnormal hF2 (by norm_num)

end Cases

/-- A decimal inside the rounding interval of a nonzero finite word, with an exponent of at
least `-1074`, reads as the word's magnitude: its exponent field and fraction. -/
theorem nearestBits_of_mem {b : UInt64} {neg : Bool} {m : ℕ} {e : ℤ}
    (hb : Binary64.ofBits b = .finite neg m e) (hm : m ≠ 0) {d : ℕ} {k : ℤ} (hk : -1074 ≤ k)
    (h : (RoundingInterval.ofMagnitude m e).Mem (d * 10 ^ k)) :
    (nearestBits d k).toNat = Binary64.field b * 2 ^ 52 + Binary64.fraction b := by
  have hfl := Binary64.field_lt b
  have hfr := Binary64.fraction_lt b
  rcases Binary64.ofBits_eq_finite hb with ⟨h0, rfl, rfl⟩ | ⟨h0, h2047, rfl, rfl⟩
  · -- subnormal: the fraction alone, in units of `2^-1074`
    have hF : 0 < Binary64.fraction b := by omega
    obtain ⟨h1, h2⟩ := RoundingInterval.bounds_of_mem_subnormal hF h
    rw [nearestBits_of_subnormal hF hfr hk h1 h2, h0, zero_mul, zero_add]
  · have he1 : -1074 ≤ (Binary64.field b : ℤ) - 1075 := by omega
    have he2 : (Binary64.field b : ℤ) - 1075 ≤ 971 := by omega
    have he : (Binary64.field b : ℤ) - 1075 ≠ -1075 := by omega
    by_cases hf0 : Binary64.fraction b = 0
    · -- the hidden bit alone
      rw [hf0, zero_add] at h
      obtain ⟨h1, h2⟩ := RoundingInterval.bounds_of_mem_power he h
      rw [nearestBits_of_power he1 he2 h1 h2, hf0]
      omega
    · have hr := RoundingInterval.roundsTo_of_mem_normal he (by omega) (by omega) h
      rw [nearestBits_of_roundsTo_normal (by omega) (by omega) he1 he2 hr]
      omega

end Decimal

end Gaze

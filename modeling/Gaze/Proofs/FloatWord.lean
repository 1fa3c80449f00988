import Mathlib
import Gaze.Decimal.Binary

/-! Floats and their words.

A float is a 64-bit word in which every undefined value is spelled as the one canonical NaN.
Unpacking a word into sign, exponent and fraction and packing these again gives the word back,
so a float is the float of its own word, and two floats with one word are one float. The
meaning that `Binary64.ofBits` gives a word is read here on the word as a natural number: the
sign is bit 63, the exponent field bits 52 to 62 and the fraction the 52 bits below. -/

namespace Gaze

open Float.Model Float.Model.UnpackedFloat

/-! ### Packing what was unpacked -/

theorem unpackMantissa_toNat (b : BitVec 64) :
    (@unpackMantissa Format.binary64 b).toNat = b.toNat % 2 ^ 52 := by
  simp [unpackMantissa, BitVec.extractLsb_toNat]

theorem unpackExponent_toNat (b : BitVec 64) :
    (@unpackExponent Format.binary64 b).toNat = b.toNat / 2 ^ 52 % 2 ^ 11 := by
  simp [unpackExponent, BitVec.extractLsb_toNat, Nat.shiftRight_eq_div_pow]

theorem unpackSign_toNat (b : BitVec 64) :
    (@unpackSign Format.binary64 b).toNat = b.toNat / 2 ^ 63 := by
  have hb := b.isLt
  simp [unpackSign, BitVec.extractLsb_toNat, Nat.shiftRight_eq_div_pow]
  omega

theorem sign_toBitVec_ofBitVec (v : BitVec 1) : (Sign.ofBitVec v).toBitVec = v := by
  revert v
  decide

theorem packComponents_toNat (s : Sign) (e : BitVec 11) (m : BitVec 52) :
    (packComponents Format.binary64 s e m).toNat =
      s.toBitVec.toNat * 2 ^ 63 + e.toNat * 2 ^ 52 + m.toNat := by
  have he : e.toNat < 2 ^ 11 := e.isLt
  have hm : m.toNat < 2 ^ 52 := m.isLt
  unfold packComponents
  rw [BitVec.toNat_append, ← Nat.shiftLeft_add_eq_or_of_lt hm, BitVec.toNat_append,
    ← Nat.shiftLeft_add_eq_or_of_lt he, Nat.shiftLeft_eq, Nat.shiftLeft_eq]
  ring

/-- A word is its sign, exponent field and fraction put together again, when these have the
values that unpacking read. -/
theorem packComponents_eq_self {b : BitVec 64} {e : BitVec 11} {m : BitVec 52}
    (he : e.toNat = b.toNat / 2 ^ 52 % 2 ^ 11) (hm : m.toNat = b.toNat % 2 ^ 52) :
    packComponents Format.binary64 (Sign.ofBitVec (@unpackSign Format.binary64 b)) e m = b := by
  have hb : b.toNat < 2 ^ 64 := b.isLt
  apply BitVec.eq_of_toNat_eq
  rw [packComponents_toNat, sign_toBitVec_ofBitVec, unpackSign_toNat, he, hm]
  omega

/-- Packing an unpacked word gives the word back, when its NaN, if it is one, is the canonical
NaN: the other NaNs are the words that unpacking forgets. -/
theorem pack_unpack {b : BitVec 64} (hv : Format.binary64.Valid b) :
    UnpackedFloat.pack Format.binary64 (UnpackedFloat.unpack Format.binary64 b) = b := by
  have hE := unpackExponent_toNat b
  have hM := unpackMantissa_toNat b
  have hbias : Format.binary64.exponentBias = 1023 := rfl
  have hbits : Format.binary64.mantissaBits = 53 := rfl
  rw [UnpackedFloat.unpack]
  split
  · rename_i hall
    split
    · -- infinity
      rename_i hzero
      exact packComponents_eq_self (by rw [← hE, hall]) (by rw [← hM, hzero]; rfl)
    · exact (hv.eq_packedNaN hall ‹_›).symm
  · rename_i hall
    split
    · rename_i hzeroE
      have hE0 : b.toNat / 2 ^ 52 % 2 ^ 11 = 0 := by rw [← hE, hzeroE]; rfl
      split
      · -- zero
        rename_i hzero
        exact packComponents_eq_self (by rw [← hE, hzeroE]; rfl) (by rw [← hM, hzero]; rfl)
      · -- subnormal: the fraction alone, below the hidden bit, with the least exponent
        rename_i hzero
        have hpos : 0 < b.toNat % 2 ^ 52 := by
          rw [← hM]
          exact Nat.pos_of_ne_zero fun h => hzero (BitVec.eq_of_toNat_eq (by simpa using h))
        have hlog : (@unpackMantissa Format.binary64 b).toNat.log2 < 52 :=
          (Nat.log2_lt (by omega)).mpr (by rw [hM]; omega)
        rw [UnpackedFloat.pack]
        simp only [hE, hE0, hbias, hbits]
        rw [if_neg (by decide), if_neg (by omega)]
        exact packComponents_eq_self (by rw [hE0]; rfl) (by simp [hM])
    · -- normal: the fraction under the hidden bit, with the stored exponent
      rename_i hzeroE
      have hE0 : b.toNat / 2 ^ 52 % 2 ^ 11 ≠ 0 := fun h =>
        hzeroE (BitVec.eq_of_toNat_eq (by rw [hE, h]; rfl))
      have hE1 : b.toNat / 2 ^ 52 % 2 ^ 11 ≠ 2047 := fun h =>
        hall (BitVec.eq_of_toNat_eq (by rw [hE, h]; rfl))
      have happ : (1#1 ++ @unpackMantissa Format.binary64 b).toNat =
          2 ^ 52 + b.toNat % 2 ^ 52 := by
        rw [BitVec.toNat_append, hM, ← Nat.shiftLeft_add_eq_or_of_lt (Nat.mod_lt _ (by omega)),
          Nat.shiftLeft_eq]
        rfl
      have hlog : (1#1 ++ @unpackMantissa Format.binary64 b).toNat.log2 = 52 := by
        rw [Nat.log2_eq_iff (by omega), happ]
        omega
      rw [UnpackedFloat.pack]
      simp only [hE, hbias, hbits, hlog]
      rw [if_neg (by omega), if_pos trivial]
      refine packComponents_eq_self (by simp; omega) ?_
      rw [BitVec.toNat_ofNat, happ]
      omega

/-- A float is the float of its word. -/
theorem ofBits_toBits (x : Float) : Float.ofBits x.toBits = x := by
  obtain ⟨⟨bits, hv⟩⟩ := x
  have h : UInt64.ofBitVec (UnpackedFloat.pack Format.binary64
      (UnpackedFloat.unpack Format.binary64 bits.toBitVec)) = bits := by
    rw [pack_unpack hv]
  simp only [Float.ofBits, Float.toBits, Float.Model.ofBits, Float.Model.pack, h]

/-- Two floats with one word are one float. -/
theorem toBits_injective : Function.Injective Float.toBits := fun x y h => by
  rw [← ofBits_toBits x, h, ofBits_toBits]

/-! ### The meaning of a word -/

namespace Binary64

/-- The exponent field of a word, its bits 52 to 62. -/
def field (b : UInt64) : ℕ := b.toNat / 2 ^ 52 % 2 ^ 11

/-- The fraction of a word, its low 52 bits. -/
def fraction (b : UInt64) : ℕ := b.toNat % 2 ^ 52

/-- Whether the sign bit of a word is set. -/
def negative (b : UInt64) : Bool := decide (2 ^ 63 ≤ b.toNat)

theorem field_lt (b : UInt64) : field b < 2 ^ 11 := Nat.mod_lt _ (by norm_num)

theorem fraction_lt (b : UInt64) : fraction b < 2 ^ 52 := Nat.mod_lt _ (by norm_num)

/-- A word is its sign bit, exponent field and fraction. -/
theorem toNat_eq (b : UInt64) :
    b.toNat = (if negative b then 2 ^ 63 else 0) + field b * 2 ^ 52 + fraction b := by
  have hb : b.toNat < 2 ^ 64 := b.toNat_lt
  unfold negative field fraction
  split <;> rename_i h <;> simp only [decide_eq_true_eq] at h <;> omega

/-- The meaning of a word, read on its fields. -/
theorem ofBits_eq (b : UInt64) :
    ofBits b =
      if field b = 2047 then (if fraction b = 0 then .infinite (negative b) else .nan)
      else if field b = 0 then .finite (negative b) (2 * fraction b) (-1075)
      else .finite (negative b) (fraction b + 2 ^ 52) ((field b : ℤ) - 1075) := by
  have hb : b.toNat < 2 ^ 64 := b.toNat_lt
  have hsign : (b >>> 63 == 1) = negative b := by
    rw [negative, Bool.eq_iff_iff, beq_iff_eq, decide_eq_true_iff, ← UInt64.toNat_inj]
    simp only [UInt64.toNat_shiftRight, Nat.shiftRight_eq_div_pow]
    simp
    omega
  have hexp : ((b >>> 52) &&& 0x7FF).toNat = field b := by
    rw [UInt64.toNat_and, UInt64.toNat_shiftRight,
      show (0x7FF : UInt64).toNat = 2 ^ 11 - 1 from rfl, Nat.and_two_pow_sub_one_eq_mod]
    simp [field, Nat.shiftRight_eq_div_pow]
  have hfrac : (b &&& 0xFFFFFFFFFFFFF).toNat = fraction b := by
    rw [UInt64.toNat_and, show (0xFFFFFFFFFFFFF : UInt64).toNat = 2 ^ 52 - 1 from rfl,
      Nat.and_two_pow_sub_one_eq_mod]
    rfl
  simp only [Binary64.ofBits, hsign, hexp, hfrac]
  rfl

/-- What a finite meaning says of the word's fields: a zero exponent field with the fraction
doubled under the least exponent, or a field neither zero nor all ones with the hidden bit
added. -/
theorem ofBits_eq_finite {b : UInt64} {neg : Bool} {m : ℕ} {e : ℤ}
    (h : ofBits b = .finite neg m e) :
    (field b = 0 ∧ m = 2 * fraction b ∧ e = -1075) ∨
      (field b ≠ 0 ∧ field b ≠ 2047 ∧ m = fraction b + 2 ^ 52 ∧ e = field b - 1075) := by
  rw [ofBits_eq] at h
  by_cases h2047 : field b = 2047
  · rw [if_pos h2047] at h
    split at h <;> cases h
  · rw [if_neg h2047] at h
    by_cases h0 : field b = 0
    · rw [if_pos h0] at h
      cases h
      exact .inl ⟨h0, rfl, rfl⟩
    · rw [if_neg h0] at h
      cases h
      exact .inr ⟨h0, h2047, rfl, rfl⟩

/-- The mantissa of a nonzero finite word is at least two and below `2^53`, and its exponent is
between `-1075` and `971`. -/
theorem finite_range {b : UInt64} {neg : Bool} {m : ℕ} {e : ℤ} (h : ofBits b = .finite neg m e)
    (hm : m ≠ 0) : 1 < m ∧ m < 2 ^ 53 ∧ -1075 ≤ e ∧ e ≤ 971 := by
  have hfl := field_lt b
  have hfr := fraction_lt b
  rcases ofBits_eq_finite h with ⟨-, rfl, rfl⟩ | ⟨-, h2047, rfl, rfl⟩ <;> omega

theorem negative_of_ofBits_eq_finite {b : UInt64} {neg : Bool} {m : ℕ} {e : ℤ}
    (h : ofBits b = .finite neg m e) : negative b = neg := by
  rw [ofBits_eq] at h
  split at h
  · split at h <;> cases h
  · split at h <;> cases h <;> rfl

end Binary64

/-- The canonical NaN, the only undefined float, is the quotient of zero by zero. -/
theorem eq_nan_of_ofFloat {x : Float} (h : Binary64.ofFloat x = .nan) : x = 0.0 / 0.0 := by
  rw [Binary64.ofFloat, Binary64.ofBits_eq] at h
  have hfield : Binary64.field x.toBits = 2047 := by
    by_contra hne
    rw [if_neg hne] at h
    split at h <;> cases h
  rw [if_pos hfield] at h
  have hfrac : Binary64.fraction x.toBits ≠ 0 := fun h0 => by rw [if_pos h0] at h; cases h
  -- a valid word with all exponent bits set and a fraction is the canonical NaN
  have hnan := x.toModel.valid.eq_packedNaN
    (BitVec.eq_of_toNat_eq (by rw [unpackExponent_toNat]; exact hfield))
    (fun h0 => hfrac (by
      have h0' := congrArg BitVec.toNat h0
      rw [unpackMantissa_toNat] at h0'
      exact h0'))
  apply toBits_injective
  have hq : (0.0 / 0.0 : Float).toBits = 0x7FF8000000000000 := by decide
  rw [hq]
  exact UInt64.toBitVec_inj.mp hnan

/-- An infinite float is the quotient of one by zero, or its negation. -/
theorem eq_inf_of_ofFloat {x : Float} {neg : Bool} (h : Binary64.ofFloat x = .infinite neg) :
    x = if neg then -(1.0 / 0.0) else 1.0 / 0.0 := by
  rw [Binary64.ofFloat, Binary64.ofBits_eq] at h
  have hfield : Binary64.field x.toBits = 2047 := by
    by_contra hne
    rw [if_neg hne] at h
    split at h <;> cases h
  rw [if_pos hfield] at h
  have hfrac : Binary64.fraction x.toBits = 0 := by
    by_contra h0
    rw [if_neg h0] at h
    cases h
  rw [if_pos hfrac] at h
  cases h
  have hx := Binary64.toNat_eq x.toBits
  rw [hfield, hfrac] at hx
  apply toBits_injective
  apply UInt64.toNat_inj.mp
  cases hneg : Binary64.negative x.toBits
  · have hq : (1.0 / 0.0 : Float).toBits = 0x7FF0000000000000 := by decide
    simp only [hneg, Bool.false_eq_true, ↓reduceIte, hq] at hx ⊢
    rw [hx]
    rfl
  · have hq : (-(1.0 / 0.0) : Float).toBits = 0xFFF0000000000000 := by decide
    simp only [hneg, ↓reduceIte, hq] at hx ⊢
    rw [hx]
    rfl

end Gaze

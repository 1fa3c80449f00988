import Gaze.Proofs.ShortestDecimal
import Gaze.Proofs.ValueText

/-! The text of a float reads back to the float.

A float is written as its sign and the shortest decimal in its rounding interval, in full, or as
one of the words `NaN`, `inf` and `-inf`. The reader of float literals takes the digits apart at
the point: the digits of a decimal written in full read back as its value, with no more places
after the point than the decimal has. Since the decimal's last digit is at a place of at least
`-346`, the reader finds the word of the interval, and the sign puts the word's sign bit back.
The words read as the canonical NaN and the infinities, which are the only floats written so. -/

namespace Gaze

/-! ### Digits and the point -/

namespace Text

theorem digitsValue_eq (ds : List Char) : digitsValue ds = Nat.ofDigitChars 10 ds 0 := by
  have hf : (fun acc c => acc * 10 + (c.toNat - '0'.toNat)) =
      fun (sofar : ℕ) (c : Char) => 10 * sofar + (c.toNat - '0'.toNat) := by
    funext acc c
    rw [Nat.mul_comm]
  rw [digitsValue, hf]
  rfl

theorem digitsValue_zero_cons (ds : List Char) : digitsValue ('0' :: ds) = digitsValue ds := by
  rw [digitsValue_eq, digitsValue_eq, Nat.ofDigitChars_cons]
  rfl

theorem digitsValue_zeros_append (n : ℕ) (ds : List Char) :
    digitsValue (Decimal.zeros n ++ ds) = digitsValue ds := by
  rw [digitsValue_eq, digitsValue_eq, Nat.ofDigitChars_append, Decimal.zeros,
    Nat.ofDigitChars_replicate_zero, Nat.mul_zero]

theorem digitsValue_append_zeros (ds : List Char) (n : ℕ) :
    digitsValue (ds ++ Decimal.zeros n) = digitsValue ds * 10 ^ n := by
  rw [digitsValue_eq, digitsValue_eq, Nat.ofDigitChars_append, Decimal.zeros,
    Nat.ofDigitChars_replicate_zero, Nat.mul_comm]

theorem isDigit_of_mem_zeros {n : ℕ} {c : Char} (h : c ∈ Decimal.zeros n) :
    c.isDigit = true := by
  unfold Decimal.zeros at h
  rw [List.eq_of_mem_replicate h]
  rfl

/-- A run of digits followed by a character that is not one splits at that character. -/
theorem spanDigits_append {ds rest : List Char} (hds : ∀ c ∈ ds, c.isDigit = true)
    (hrest : ∀ c ∈ rest.head?, c.isDigit = false) : spanDigits (ds ++ rest) = (ds, rest) := by
  induction ds with
  | nil =>
    cases rest with
    | nil => rfl
    | cons c r =>
      have hc : c.isDigit = false := hrest c rfl
      simp [spanDigits, hc]
  | cons d ds ih =>
    have hd : d.isDigit = true := hds d List.mem_cons_self
    have ih := ih fun c hc => hds c (List.mem_cons_of_mem d hc)
    simp only [spanDigits, Prod.mk.injEq] at ih
    simp [spanDigits, hd, ih]

/-- Digits alone read as their value with no places after the point. -/
theorem readDecimal_digits {ds : List Char} (hds : ∀ c ∈ ds, c.isDigit = true)
    (hne : ds ≠ []) :
    readDecimal ds = some (digitsValue ds, 0) := by
  have hspan : spanDigits (ds ++ []) = (ds, []) := spanDigits_append hds (by simp)
  rw [List.append_nil] at hspan
  unfold readDecimal
  simp [hspan, hne]

/-- Digits, a point and digits read as the value of all the digits, with as many places after
the point as there are digits after it. -/
theorem readDecimal_point {w f : List Char} (hw : ∀ c ∈ w, c.isDigit = true)
    (hf : ∀ c ∈ f, c.isDigit = true) (hne : w ++ f ≠ []) :
    readDecimal (w ++ '.' :: f) = some (digitsValue (w ++ f), -(f.length : ℤ)) := by
  have hspan1 : spanDigits (w ++ '.' :: f) = (w, '.' :: f) := spanDigits_append hw (by simp)
  have hspan2 : spanDigits (f ++ []) = (f, []) := spanDigits_append hf (by simp)
  rw [List.append_nil] at hspan2
  unfold readDecimal
  simp [hspan1, hspan2]
  simpa using hne

/-- A decimal written out in full reads back as its digits with the exponent's zeros when the
exponent is not negative, and as its digits and exponent otherwise. -/
theorem readDecimal_positional {D : Decimal} (hD : D.digits ≠ 0) :
    readDecimal D.positional.toList =
      some (D.digits * 10 ^ D.exponent.toNat, min D.exponent 0) := by
  have hs : ∀ c ∈ Nat.toDigits 10 D.digits, c.isDigit = true := fun c hc =>
    Nat.isDigit_of_mem_toDigits (by decide) (by decide) hc
  have hval : digitsValue (Nat.toDigits 10 D.digits) = D.digits := by
    rw [digitsValue_eq, Nat.ofDigitChars_ten_toDigits]
  have hne : Nat.toDigits 10 D.digits ≠ [] := Nat.toDigits_ne_nil
  have hlen : 0 < (Nat.toDigits 10 D.digits).length := List.length_pos_iff.mpr hne
  unfold Decimal.positional
  rw [if_neg hD]
  dsimp only
  generalize Nat.toDigits 10 D.digits = s at hs hval hne hlen
  split_ifs with h1 h2
  · -- below one: a zero, the point, zeros, then the digits
    have hz : ∀ c ∈ Decimal.zeros (-(s.length + D.exponent)).toNat ++ s, c.isDigit = true := by
      simp only [List.mem_append]
      rintro c (hc | hc)
      · exact isDigit_of_mem_zeros hc
      · exact hs c hc
    rw [String.toList_ofList, List.cons_append, List.cons_append, ← List.singleton_append,
      readDecimal_point (by simp) hz (by simp), List.singleton_append, digitsValue_zero_cons,
      digitsValue_zeros_append, hval, Int.toNat_of_nonpos (show D.exponent ≤ 0 by omega),
      pow_zero, Nat.mul_one]
    simp only [List.length_append, Decimal.zeros, List.length_replicate, Option.some.injEq,
      Prod.mk.injEq, true_and]
    omega
  · -- between one and the last digit: the point inside the digits
    have hw : ∀ c ∈ s.take (s.length + D.exponent).toNat, c.isDigit = true :=
      fun c hc => hs c (List.mem_of_mem_take hc)
    have hf : ∀ c ∈ s.drop (s.length + D.exponent).toNat, c.isDigit = true :=
      fun c hc => hs c (List.mem_of_mem_drop hc)
    rw [String.toList_ofList, readDecimal_point hw hf (by rw [List.take_append_drop]; exact hne),
      List.take_append_drop, hval, Int.toNat_of_nonpos (show D.exponent ≤ 0 by omega),
      pow_zero, Nat.mul_one]
    simp only [List.length_drop, Option.some.injEq, Prod.mk.injEq, true_and]
    omega
  · -- a whole number: the digits, then zeros
    have hz : ∀ c ∈ s ++ Decimal.zeros ((s.length + D.exponent).toNat - s.length),
        c.isDigit = true := by
      simp only [List.mem_append]
      rintro c (hc | hc)
      · exact hs c hc
      · exact isDigit_of_mem_zeros hc
    rw [String.toList_ofList, readDecimal_digits hz (by simp [hne]), digitsValue_append_zeros,
      hval]
    simp only [Option.some.injEq, Prod.mk.injEq]
    constructor
    · congr 2
      omega
    · omega

/-- A sign, or none, before a text that reads as a decimal and holds no sign reads as the float
nearest to the decimal, with that sign. -/
theorem readFloat_signed {t : String} {d : ℕ} {k : ℤ} (neg : Bool)
    (hsign : ∀ c ∈ t.toList, c ≠ '-' ∧ c ≠ '+')
    (hr : readDecimal t.toList = some (d, k)) :
    readFloat ((if neg then "-" else "") ++ t) = .ok (Decimal.toFloat neg d k) := by
  cases ht : t.toList with
  | nil =>
    rw [ht] at hr
    cases hr
  | cons c cs =>
    obtain ⟨hm, hp⟩ := hsign c (by rw [ht]; exact List.mem_cons_self)
    rw [ht] at hr
    cases neg
    · simp [readFloat, ht, hm, hp, hr]
    · simp [readFloat, ht, hr]

end Text

/-! ### From the word back to the float -/

namespace Decimal

theorem nearestBits_zero (k : ℤ) : nearestBits 0 k = 0 := by
  unfold nearestBits
  rw [if_pos (Or.inl rfl)]

/-- The float built from a magnitude word and a sign is the float whose word has that sign and
that exponent field and fraction. -/
theorem toFloat_eq {neg : Bool} {d : ℕ} {k : ℤ} {x : Float}
    (h : (nearestBits d k).toNat = Binary64.field x.toBits * 2 ^ 52 + Binary64.fraction x.toBits)
    (hneg : Binary64.negative x.toBits = neg) : toFloat neg d k = x := by
  have hfl := Binary64.field_lt x.toBits
  have hfr := Binary64.fraction_lt x.toBits
  rw [← ofBits_toBits x, toFloat]
  congr 1
  apply UInt64.toNat_inj.mp
  rw [Binary64.toNat_eq x.toBits, hneg, UInt64.toNat_or, h]
  cases neg
  · simp
  · -- the sign bit lies above the 63 bits of the magnitude
    have hlt : Binary64.field x.toBits * 2 ^ 52 + Binary64.fraction x.toBits < 2 ^ 63 := by omega
    have hor := Nat.two_pow_add_eq_or_of_lt hlt 1
    rw [Nat.mul_one] at hor
    rw [if_pos rfl, if_pos rfl, show ((0x8000000000000000 : UInt64)).toNat = 2 ^ 63 from rfl,
      Nat.or_comm, ← hor]
    ring

theorem ten_zpow_toNat_mul_min (e : ℤ) : (10 : ℚ) ^ e.toNat * 10 ^ min e 0 = 10 ^ e := by
  rcases le_total 0 e with he | he
  · rw [min_eq_right he, zpow_zero, mul_one, ← zpow_natCast, Int.toNat_of_nonneg he]
  · rw [min_eq_left he, Int.toNat_of_nonpos he, pow_zero, one_mul]

end Decimal

/-! ### The round trip -/

open Text

/-- The shortest decimal of a nonzero finite word lies in the word's rounding interval, and
its last digit is at a place of at least `-346`. -/
theorem shortest_word_mem {b : UInt64} {neg : Bool} {m : ℕ} {e : ℤ}
    (hb : Binary64.ofBits b = .finite neg m e) (hm : m ≠ 0) :
    (RoundingInterval.ofMagnitude m e).Mem
        ((RoundingInterval.ofMagnitude m e).shortest.digits *
          10 ^ (RoundingInterval.ofMagnitude m e).shortest.exponent) ∧
      -346 ≤ (RoundingInterval.ofMagnitude m e).shortest.exponent := by
  obtain ⟨hm1, hm2, he, -⟩ := Binary64.finite_range hb hm
  apply RoundingInterval.shortest_ofMagnitude_mem hm1 (by omega)
  calc (2 : ℚ) ^ (-1075 : ℤ) ≤ 2 ^ e := zpow_le_zpow_right₀ (by norm_num) he
    _ ≤ m * 2 ^ e := le_mul_of_one_le_left (by positivity) (by exact_mod_cast hm1.le)

theorem positional_no_sign (D : Decimal) :
    ∀ c ∈ D.positional.toList, c ≠ '-' ∧ c ≠ '+' := fun c hc => by
  rcases Decimal.mem_positional hc with h | rfl
  · constructor <;> rintro rfl <;> exact Bool.noConfusion h
  · decide

/-- The decimal written for a finite float reads back, with the float's sign, to the float. -/
theorem toFloat_readDecimal_ofMagnitude {x : Float} {neg : Bool} {m : ℕ} {e : ℤ}
    (hx : Binary64.ofFloat x = .finite neg m e) :
    ∃ d k, readDecimal (Decimal.ofMagnitude m e).positional.toList = some (d, k) ∧
      Decimal.toFloat neg d k = x := by
  have hneg := Binary64.negative_of_ofBits_eq_finite hx
  by_cases hm : m = 0
  · -- zero is written `0` and read as the word with no exponent field and no fraction
    subst hm
    refine ⟨0, 0, by rw [Decimal.ofMagnitude, if_pos rfl]; rfl, Decimal.toFloat_eq ?_ hneg⟩
    rw [Decimal.nearestBits_zero, UInt64.toNat_zero]
    rcases Binary64.ofBits_eq_finite hx with ⟨h0, hm, -⟩ | ⟨-, -, hm, -⟩ <;> omega
  · obtain ⟨hmem, hexp⟩ := shortest_word_mem hx hm
    obtain ⟨hm1, hm2, -⟩ := Binary64.finite_range hx hm
    rw [Decimal.ofMagnitude, if_neg hm]
    set D := (RoundingInterval.ofMagnitude m e).shortest
    -- the decimal lies above zero, so it has digits, and it is read with its own value
    have hpos : (0 : ℚ) < D.digits * 10 ^ D.exponent :=
      hmem.pos (RoundingInterval.ofMagnitude_width e hm1 (by omega)).1
    have hdigits : D.digits ≠ 0 := fun h0 => by simp [h0] at hpos
    refine ⟨_, _, readDecimal_positional hdigits, Decimal.toFloat_eq ?_ hneg⟩
    refine Decimal.nearestBits_of_mem hx hm (by omega) ?_
    rw [Nat.cast_mul, Nat.cast_pow, Nat.cast_ofNat, mul_assoc, Decimal.ten_zpow_toNat_mul_min]
    exact hmem

/-- The text of every float reads back to the float. -/
theorem readFloat_floatText (x : Float) : readFloat (floatText x) = .ok x := by
  unfold floatText FloatStyle.render
  cases hx : Binary64.ofFloat x with
  | nan =>
    rw [eq_nan_of_ofFloat hx]
    rfl
  | infinite neg =>
    rw [eq_inf_of_ofFloat hx]
    cases neg <;> rfl
  | finite neg m e =>
    show readFloat ((if neg then "-" else "") ++ (Decimal.ofMagnitude m e).positional) = .ok x
    obtain ⟨d, k, hread, hfloat⟩ := toFloat_readDecimal_ofMagnitude hx
    rw [readFloat_signed neg (positional_no_sign _) hread, hfloat]

end Gaze

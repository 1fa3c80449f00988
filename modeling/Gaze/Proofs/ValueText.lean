import Mathlib
import Gaze.Config
import Gaze.Message.Format
import Gaze.Text.Blank
import Gaze.Text.NumberLiteral

/-! The texts that a message writes for its values. A float is written with digits, a point, a
leading minus or one of the words `NaN` and `inf`; an integer with digits and a leading minus;
a flag as `True` or `False`; a vector as such numbers between braces, separated by commas. Every
character of these texts can occur in a pair, none is blank, and a number has no comma. The text
of a signed 64-bit integer reads back to the integer. -/

namespace Gaze

open Text

/-- Every character that can occur in a pair is not blank, so trimming leaves it alone. -/
theorem isBlank_eq_false_of_inPair {c : Char} (h : inPair c = true) : isBlank c = false := by
  rw [Bool.eq_false_iff]
  intro hb
  -- the blank characters are 25 code points; none is in the class of pairs
  have hcode : c.toNat ∈ [0x9, 0xA, 0xB, 0xC, 0xD, 0x20, 0x85, 0xA0, 0x1680, 0x2000, 0x2001,
      0x2002, 0x2003, 0x2004, 0x2005, 0x2006, 0x2007, 0x2008, 0x2009, 0x200A, 0x2028, 0x2029,
      0x202F, 0x205F, 0x3000] := by
    simp only [isBlank, blankRanges, List.any_cons, List.any_nil, Bool.or_false, Bool.or_eq_true,
      Bool.and_eq_true, decide_eq_true_eq] at hb
    simp only [List.mem_cons, List.not_mem_nil, or_false]
    omega
  have hall : ∀ n ∈ [0x9, 0xA, 0xB, 0xC, 0xD, 0x20, 0x85, 0xA0, 0x1680, 0x2000, 0x2001,
      0x2002, 0x2003, 0x2004, 0x2005, 0x2006, 0x2007, 0x2008, 0x2009, 0x200A, 0x2028, 0x2029,
      0x202F, 0x205F, 0x3000], inPair (Char.ofNat n) = false := by decide +kernel
  rw [← Char.ofNat_toNat c, hall _ hcode] at h
  exact Bool.noConfusion h

theorem trimChars_of_forall {cs : List Char} (h : ∀ c ∈ cs, isBlank c = false) :
    trimChars cs = cs := by
  have hdrop : ∀ ds : List Char, (∀ c ∈ ds, isBlank c = false) → ds.dropWhile isBlank = ds := by
    intro ds hds
    cases ds with
    | nil => rfl
    | cons d ds => simp [hds d (by simp)]
  unfold trimChars
  rw [hdrop cs h, hdrop cs.reverse (fun c hc => h c (List.mem_reverse.mp hc)), List.reverse_reverse]

theorem trimChars_of_inPair {cs : List Char} (h : ∀ c ∈ cs, inPair c = true) :
    trimChars cs = cs :=
  trimChars_of_forall fun c hc => isBlank_eq_false_of_inPair (h c hc)

theorem inPair_eq_false_of_isBlank {c : Char} (h : isBlank c = true) : inPair c = false := by
  cases hc : inPair c with
  | false => rfl
  | true => rw [isBlank_eq_false_of_inPair hc] at h; cases h

theorem inPair_of_mem_pairPunctuation {c : Char} (h : c ∈ pairPunctuation) : inPair c = true := by
  simp [inPair, h]

theorem inPair_of_isAlphanum {c : Char} (h : c.isAlphanum = true) : inPair c = true := by
  simp [inPair, isAlphanumeric_of_isAlphanum c h]

/-- ASCII letters, digits and the punctuation of pairs can occur in a pair. For a literal text this
test is decided without scanning the table of alphanumerics. -/
theorem forall_inPair_of_ascii {cs : List Char}
    (h : cs.all (fun c => c.isAlphanum || pairPunctuation.contains c) = true) :
    ∀ c ∈ cs, inPair c = true := by
  intro c hc
  have hc := List.all_eq_true.mp h c hc
  cases ha : c.isAlphanum with
  | true => exact inPair_of_isAlphanum ha
  | false =>
    rw [ha, Bool.false_or] at hc
    simp only [inPair, hc, Bool.or_true]

theorem inPair_of_isDigit {c : Char} (h : c.isDigit = true) : inPair c = true :=
  inPair_of_isAlphanum (by simp [Char.isAlphanum, h])

theorem toNat_of_isDigit {c : Char} (h : c.isDigit = true) : 48 ≤ c.toNat ∧ c.toNat ≤ 57 := by
  simp only [Char.isDigit, Bool.and_eq_true, decide_eq_true_eq, UInt32.le_iff_toNat_le] at h
  exact ⟨h.1, h.2⟩

/-! ### Number texts -/

/-- A decimal written out in full uses digits and the point. -/
theorem Decimal.mem_positional {d : Decimal} {c : Char} (h : c ∈ d.positional.toList) :
    c.isDigit = true ∨ c = '.' := by
  have hdigits : ∀ x ∈ Nat.toDigits 10 d.digits, x.isDigit = true := fun x hx =>
    Nat.isDigit_of_mem_toDigits (by decide) (by decide) hx
  have hzeros : ∀ n, ∀ x ∈ Decimal.zeros n, x.isDigit = true := fun n x hx => by
    rw [Decimal.zeros] at hx
    rw [List.eq_of_mem_replicate hx]
    rfl
  simp only [Decimal.positional] at h
  split at h
  · rw [show "0".toList = ['0'] from rfl, List.mem_singleton] at h
    rw [h]
    exact .inl rfl
  · split at h
    · simp only [String.toList_ofList, List.mem_cons, List.mem_append] at h
      rcases h with (rfl | rfl | h) | h
      · exact .inl rfl
      · exact .inr rfl
      · exact .inl (hzeros _ _ h)
      · exact .inl (hdigits _ h)
    · split at h
      · simp only [String.toList_ofList, List.mem_append, List.mem_cons] at h
        rcases h with h | rfl | h
        · exact .inl (hdigits _ (List.mem_of_mem_take h))
        · exact .inr rfl
        · exact .inl (hdigits _ (List.mem_of_mem_drop h))
      · simp only [String.toList_ofList, List.mem_append] at h
        rcases h with h | h
        · exact .inl (hdigits _ h)
        · exact .inl (hzeros _ _ h)

/-- The words and signs of a float's text have characters of pairs only, and no comma. -/
theorem mem_floatWord : ∀ w ∈ ["NaN", "inf", "-", ""], ∀ c ∈ w.toList,
    inPair c = true ∧ c ≠ ',' := by
  intro w hw
  -- decided word by word as a boolean test, not by enumerating characters
  have hascii : w.toList.all (fun c => c.isAlphanum || pairPunctuation.contains c) = true := by
    revert w
    decide
  have hcomma : ',' ∉ w.toList := by
    revert w
    decide
  intro c hc
  exact ⟨forall_inPair_of_ascii hascii c hc, by rintro rfl; exact hcomma hc⟩

theorem mem_floatText {x : Float} {c : Char} (h : c ∈ (floatText x).toList) :
    inPair c = true ∧ c ≠ ',' := by
  have hsign : ∀ neg : Bool, c ∈ (if neg then "-" else "").toList → inPair c = true ∧ c ≠ ',' :=
    fun neg hc => by cases neg <;> exact mem_floatWord _ (by simp) c hc
  unfold floatText FloatStyle.render FloatStyle.plain at h
  split at h
  · exact mem_floatWord "NaN" (by simp) c h
  · rw [String.toList_append, List.mem_append] at h
    rcases h with h | h
    · exact hsign _ h
    · exact mem_floatWord "inf" (by simp) c h
  · rw [String.toList_append, List.mem_append] at h
    rcases h with h | h
    · exact hsign _ h
    · rcases Decimal.mem_positional h with h | rfl
      · exact ⟨inPair_of_isDigit h, by rintro rfl; exact Bool.noConfusion h⟩
      · exact ⟨inPair_of_mem_pairPunctuation (by decide), by decide⟩

theorem mem_intercalate {sep : List Char} {c : Char} :
    ∀ {ws : List (List Char)}, c ∈ sep.intercalate ws → c ∈ sep ∨ ∃ w ∈ ws, c ∈ w
  | [], h => by simp at h
  | [w], h => .inr ⟨w, by simp, by simpa using h⟩
  | w :: w' :: ws, h => by
    rw [List.intercalate_cons_cons, List.mem_append, List.mem_append] at h
    rcases h with (h | h) | h
    · exact .inr ⟨w, by simp, h⟩
    · exact .inl h
    · rcases mem_intercalate h with h | ⟨v, hv, hc⟩
      · exact .inl h
      · exact .inr ⟨v, List.mem_cons_of_mem w hv, hc⟩

theorem mem_sensorVector_text {v : SensorVector Float} {c : Char} (h : c ∈ v.text.toList) :
    inPair c = true := by
  have hbrace : ∀ w ∈ ["\x7b", "\x7d", ","], ∀ b ∈ w.toList, inPair b = true := by
    intro w hw
    refine forall_inPair_of_ascii ?_
    revert w
    decide
  simp only [SensorVector.text, String.toList_append, String.toList_intercalate, List.mem_append,
    List.map_map] at h
  rcases h with (h | h) | h
  · exact hbrace "\x7b" (by simp) c h
  · rcases mem_intercalate h with h | ⟨w, hw, hc⟩
    · exact hbrace "," (by simp) c h
    · obtain ⟨x, -, rfl⟩ := List.mem_map.mp hw
      exact (mem_floatText hc).1
  · exact hbrace "\x7d" (by simp) c h

theorem mem_flagText : ∀ b : Bool, ∀ c ∈ (Message.flagText b).toList, inPair c = true := by
  intro b
  refine forall_inPair_of_ascii ?_
  revert b
  decide

/-! ### Integer texts -/

/-- A value read with the sign of `negative`. -/
def signed (negative : Bool) (n : Nat) : Int := if negative then -(n : Int) else n

/-- Digits read into an accumulator give the signed value of all the digits read, as long as
that value is within range; every value on the way lies between zero and it. -/
theorem readDigits_eq (negative : Bool) (ds : List Char) (hds : ∀ c ∈ ds, c.isDigit = true)
    (acc : Nat)
    (hbound : Nat.ofDigitChars 10 ds acc ≤ if negative then 2 ^ 63 else 2 ^ 63 - 1) :
    readDigits negative ds (signed negative acc) =
      .ok (signed negative (Nat.ofDigitChars 10 ds acc)) := by
  induction ds generalizing acc with
  | nil => rfl
  | cons c r ih =>
    have hc := toNat_of_isDigit (hds c (by simp))
    have h48 : '0'.toNat = 48 := rfl
    rw [Nat.ofDigitChars_cons] at hbound ⊢
    -- the accumulator after this digit is the signed value of the digits so far
    have hstep : (if negative = true then
        signed negative acc * 10 - ((c.toNat : Int) - ('0'.toNat : Int))
        else signed negative acc * 10 + ((c.toNat : Int) - ('0'.toNat : Int))) =
        signed negative (10 * acc + (c.toNat - '0'.toNat)) := by
      cases negative <;> simp only [signed, Bool.false_eq_true, ↓reduceIte] <;> omega
    have hle : 10 * acc + (c.toNat - '0'.toNat) ≤
        Nat.ofDigitChars 10 r (10 * acc + (c.toNat - '0'.toNat)) := by
      rw [@Nat.ofDigitChars_eq_ofDigitChars_zero r _]
      exact Nat.le_trans (Nat.le_mul_of_pos_left _ (Nat.pow_pos (by decide))) (Nat.le_add_right _ _)
    simp only [readDigits, hds c (by simp), Bool.not_true, Bool.false_eq_true, ↓reduceIte]
    rw [hstep]
    generalize 10 * acc + (c.toNat - '0'.toNat) = v at hle hbound ⊢
    have hmax : ¬int64Max < signed negative v := by
      cases negative <;> simp only [signed, int64Max, Bool.false_eq_true, ↓reduceIte] at hbound ⊢ <;> omega
    have hmin : ¬signed negative v < int64Min := by
      cases negative <;> simp only [signed, int64Min, Bool.false_eq_true, ↓reduceIte] at hbound ⊢ <;> omega
    rw [if_neg hmax, if_neg hmin]
    exact ih (fun x hx => hds x (List.mem_cons_of_mem c hx)) _ hbound

theorem signed_zero (negative : Bool) : signed negative 0 = 0 := by
  cases negative <;> rfl

/-- A literal that starts with a digit is read as unsigned digits. -/
theorem readInt64_of_toList_digit {s : String} {d : Char} {ds : List Char}
    (hs : s.toList = d :: ds) (hd : d.isDigit = true) :
    readInt64 s = (readDigits false (d :: ds) 0).map Int64.ofInt := by
  have hplus : d ≠ '+' := by rintro rfl; exact Bool.noConfusion hd
  have hminus : d ≠ '-' := by rintro rfl; exact Bool.noConfusion hd
  simp only [readInt64, hs]
  generalize hcs : d :: ds = cs
  split <;> simp_all

/-- A literal of a minus and digits is read as negative digits. -/
theorem readInt64_of_toList_minus {s : String} {d : Char} {ds : List Char}
    (hs : s.toList = '-' :: d :: ds) :
    readInt64 s = (readDigits true (d :: ds) 0).map Int64.ofInt := by
  simp only [readInt64, hs]

/-- The text of a signed 64-bit integer reads back to it. -/
theorem readInt64_intText (n : Int64) : readInt64 (Message.intText n) = .ok n := by
  have hdig : ∀ x ∈ Nat.toDigits 10 n.toInt.natAbs, x.isDigit = true := fun x hx =>
    Nat.isDigit_of_mem_toDigits (by decide) (by decide) hx
  obtain ⟨d, ds, hds⟩ := List.exists_cons_of_ne_nil (@Nat.toDigits_ne_nil n.toInt.natAbs 10)
  have hval : Nat.ofDigitChars 10 (d :: ds) 0 = n.toInt.natAbs := by
    rw [← hds, Nat.ofDigitChars_ten_toDigits]
  have hlo := Int64.le_toInt n
  have hhi := Int64.toInt_lt n
  by_cases hneg : n.toInt < 0
  · have hread := readDigits_eq true (d :: ds) (hds ▸ hdig) 0 (by simp only [hval]; simp; omega)
    rw [hval, signed_zero] at hread
    have hs : (Message.intText n).toList = '-' :: d :: ds := by
      simp [Message.intText, hneg, hds]
    rw [readInt64_of_toList_minus hs, hread]
    simp only [Except.map, signed, ↓reduceIte]
    rw [show -(n.toInt.natAbs : Int) = n.toInt by omega, Int64.ofInt_toInt]
  · have hread := readDigits_eq false (d :: ds) (hds ▸ hdig) 0 (by simp only [hval]; simp; omega)
    rw [hval, signed_zero] at hread
    have hs : (Message.intText n).toList = d :: ds := by
      simp [Message.intText, hneg, hds]
    rw [readInt64_of_toList_digit hs (hdig d (by simp [hds])), hread]
    simp only [Except.map, signed, Bool.false_eq_true, ↓reduceIte]
    rw [show (n.toInt.natAbs : Int) = n.toInt by omega, Int64.ofInt_toInt]

theorem mem_intText {n : Int64} {c : Char} (h : c ∈ (Message.intText n).toList) :
    inPair c = true := by
  simp only [Message.intText, String.toList_append, String.toList_ofList, List.mem_append] at h
  rcases h with h | h
  · split at h
    · exact (mem_floatWord "-" (by simp) c h).1
    · exact (mem_floatWord "" (by simp) c h).1
  · exact inPair_of_isDigit (Nat.isDigit_of_mem_toDigits (by decide) (by decide) h)

end Gaze

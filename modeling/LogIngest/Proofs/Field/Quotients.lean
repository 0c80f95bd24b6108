import LogIngest.Proofs.Decimal.Doubles
import LogIngest.Proofs.Field.Formatted

/-!
Quotients of formats. Main statement: a field of 64 bits makes of digits and the divisor of its format the
quotient of two whole numbers where the digits fit 64 bits and nothing is left over, and else the quotient
that doubles give.
-/

namespace LogIngest

open NumberFormat (Numeral)

/-- The quotient that is read where a number is divided by the divisor of its format: the exact one if the
number fits 64 bits and nothing is left over, and else the one that doubles give. -/
def readQuotient (n divisor : Nat) : Nat :=
  if n ≤ 9223372036854775807 ∧ divisor ∣ n then n / divisor else doubleQuotient n divisor

theorem signed_two_pow_le {n : Nat} (h : 2 ^ 64 ≤ n) (negative : Bool) :
    ¬(-9223372036854775808 ≤ Binary.signed negative n ∧
      Binary.signed negative n ≤ 9223372036854775807) := by
  cases negative <;> simp only [Binary.signed, if_true, if_false, Bool.false_eq_true] <;> omega

theorem ofInt_neg_natCast {n : Nat} (hn : n ≠ 0) :
    Float.ofInt (-(n : Int)) = -Float.ofNat n := by
  obtain ⟨k, rfl⟩ := Nat.exists_eq_succ_of_ne_zero hn
  rfl

/-- What a field of 64 bits makes of a quotient of doubles. -/
theorem ofAmount_quotient {n d : Nat} (text : String) (hn : n ≠ 0) (hd : d ≠ 0) (hSmall : d < 2 ^ 53)
    (negative : Bool) :
    NumberType.long.ofAmount text
        (.fractional (signedDouble negative (Float.ofNat n) / Float.ofNat d)) =
      NumberType.long.ofInt text (Binary.signed negative (doubleQuotient n d)) := by
  rcases truncate?_quotient hn hd hSmall negative with hWhole | ⟨hLarge, hNone⟩
  · simp only [NumberType.ofAmount, hWhole]
  · rw [NumberType.ofInt_long_tooLarge (signed_two_pow_le hLarge negative)]
    simp only [NumberType.ofAmount, hNone]
    rfl

theorem truncate?_of_whole? {x : Binary} {n : Int} (h : x.whole? = some n) : x.truncate? = some n := by
  cases x with
  | infinite negative => cases h
  | notANumber => cases h
  | finite negative mantissa exponent =>
      simp only [Binary.whole?] at h
      split at h
      · exact h
      · cases h

/-- Doubles that are whole below 2^53 are taken as whole numbers, which makes no difference to a field of
whole numbers. -/
theorem ofAmount_whole? (text : String) (x : Float) :
    NumberType.long.ofAmount text
        (match (Binary.ofFloat x).whole? with
          | some n => if n.natAbs < Nat.pow 2 53 then .whole (Int64.ofInt n) else .fractional x
          | none => .fractional x) =
      NumberType.long.ofAmount text (.fractional x) := by
  cases hWhole : (Binary.ofFloat x).whole? with
  | none => rfl
  | some n =>
      dsimp only
      split
      · next hSmall =>
          have hTruncated := truncate?_of_whole? hWhole
          have hValue : (Int64.ofInt n).toInt = n := by
            simp only [Nat.pow_eq] at hSmall
            exact Int64.toInt_ofInt_of_le (by omega) (by omega)
          simp only [NumberType.ofAmount, hTruncated, hValue]
      · rfl

theorem nearestDouble_natural {n : Nat} (hn : n ≠ 0) (hLength : (natText n).length ≤ 310) :
    nearestDouble n 0 = Float.ofNat n := by
  have hLead : ¬(310 : Int) < 0 + (natText n).length := by omega
  have hNotTiny : ¬(0 : Int) + (natText n).length < -330 := by omega
  simp only [nearestDouble, beq_iff_eq, hn, hLead, hNotTiny, if_false, if_true, le_refl]
  rfl

theorem nearestDouble_huge {n : Nat} (hn : n ≠ 0) (hLength : 310 < (natText n).length) :
    nearestDouble n 0 = 1.0 / 0.0 := by
  have hLead : (310 : Int) < 0 + (natText n).length := by omega
  simp only [nearestDouble, beq_iff_eq, hn, hLead, if_false, if_true]

theorem tdiv_signed (negative : Bool) (n d : Nat) :
    (Binary.signed negative n).tdiv d = Binary.signed negative (n / d) := by
  cases negative with
  | false => exact Int.ofNat_tdiv n d
  | true => exact (Int.neg_tdiv n d).trans (congrArg (- ·) (Int.ofNat_tdiv n d))

theorem tmod_signed_eq_zero_iff (negative : Bool) (n d : Nat) :
    (Binary.signed negative n).tmod d = 0 ↔ d ∣ n := by
  rw [← Int.dvd_iff_tmod_eq_zero]
  cases negative with
  | false => exact Int.natCast_dvd_natCast
  | true => exact (Int.dvd_neg).trans Int.natCast_dvd_natCast

/-- Digits that fit 64 bits are divided exactly, if nothing is left over. -/
theorem ofAmount_of_fits (text : String) {digits : List Char} {d : Nat} (hd : d ≠ 0)
    (hSmall : d < 2 ^ 53) (negative : Bool) (hFits : digitsValue digits ≤ 9223372036854775807) :
    NumberType.long.ofAmount text (Numeral.toAmount ⟨digits, none, none⟩ negative d) =
      NumberType.long.ofInt text (Binary.signed negative (readQuotient (digitsValue digits) d)) := by
  have hWhole : Numeral.toWhole? ⟨digits, none, none⟩ = some (digitsValue digits : Int) :=
    Numeral.toWhole?_digits hFits
  have hSigned : (if negative then -(digitsValue digits : Int) else digitsValue digits) =
      Binary.signed negative (digitsValue digits) := rfl
  simp only [Numeral.toAmount, hWhole, hSigned]
  by_cases hDivides : d ∣ digitsValue digits
  · have hTmod := (tmod_signed_eq_zero_iff negative (digitsValue digits) d).mpr hDivides
    have hQuotient : readQuotient (digitsValue digits) d = digitsValue digits / d :=
      if_pos ⟨hFits, hDivides⟩
    have hLess := Nat.div_le_self (digitsValue digits) d
    have hValue : (Int64.ofInt (Binary.signed negative (digitsValue digits / d))).toInt =
        Binary.signed negative (digitsValue digits / d) := by
      apply Int64.toInt_ofInt_of_le <;>
        cases negative <;> simp only [Binary.signed, if_true, if_false, Bool.false_eq_true] <;> omega
    rw [hTmod, tdiv_signed, hQuotient]
    simp only [NumberType.ofAmount, beq_self_eq_true, if_true, hValue]
  · have hTmod := mt (tmod_signed_eq_zero_iff negative (digitsValue digits) d).mp hDivides
    have hn : digitsValue digits ≠ 0 := by
      intro hZero
      exact hDivides (hZero ▸ Nat.dvd_zero d)
    have hQuotient : readQuotient (digitsValue digits) d = doubleQuotient (digitsValue digits) d :=
      if_neg fun h => hDivides h.2
    have hDouble : Float.ofInt (Binary.signed negative (digitsValue digits)) =
        signedDouble negative (Float.ofNat (digitsValue digits)) := by
      cases negative with
      | false => rfl
      | true => exact ofInt_neg_natCast hn
    rw [if_neg (by simpa using hTmod), hDouble, hQuotient]
    exact ofAmount_quotient text hn hd hSmall negative

/-- An infinite double is out of range, whatever it is divided by. -/
theorem ofAmount_infinity {d : Nat} (text : String) (hd : d ≠ 0) (hSmall : d < 2 ^ 53) (negative : Bool) :
    NumberType.long.ofAmount text (.fractional (signedDouble negative (1.0 / 0.0) / Float.ofNat d)) =
      .error (.numberOutOfRange text "long") := by
  have hInfinite : (signedDouble negative (1.0 / 0.0)).toModel.unpack = .infinity (signOf negative) := by
    cases negative <;> rfl
  obtain ⟨m, x, hm, -, -, hUnpack⟩ := unpack_ofNat hd hSmall
  have hNone := truncate?_div_infinity hInfinite hUnpack
  simp only [NumberType.ofAmount, hNone]
  rfl

/-- Digits that do not fit 64 bits become a double. -/
theorem ofAmount_of_large (text : String) {digits : List Char} {d : Nat} (hd : d ≠ 0)
    (hSmall : d < 2 ^ 53) (negative : Bool) (hLarge : ¬digitsValue digits ≤ 9223372036854775807) :
    NumberType.long.ofAmount text (Numeral.toAmount ⟨digits, none, none⟩ negative d) =
      NumberType.long.ofInt text (Binary.signed negative (readQuotient (digitsValue digits) d)) := by
  have hn : digitsValue digits ≠ 0 := by omega
  have hNone : Numeral.toWhole? ⟨digits, none, none⟩ = none := by
    have hAdmits : ¬Bounds.int64.admits (digitsValue digits) = true := by
      rw [Bounds.admits_iff]
      simp only [Bounds.int64]
      omega
    simp [Numeral.toWhole?, hAdmits]
  have hFloat : Numeral.toFloat ⟨digits, none, none⟩ = nearestDouble (digitsValue digits) 0 := by
    simp [Numeral.toFloat]
  have hQuotient : readQuotient (digitsValue digits) d = doubleQuotient (digitsValue digits) d :=
    if_neg fun h => hLarge h.1
  have hAmount : NumberType.long.ofAmount text (Numeral.toAmount ⟨digits, none, none⟩ negative d) =
      NumberType.long.ofAmount text
        (.fractional (signedDouble negative (nearestDouble (digitsValue digits) 0) / Float.ofNat d)) := by
    simp only [Numeral.toAmount, hNone, hFloat]
    exact ofAmount_whole? text _
  rw [hAmount, hQuotient]
  rcases Nat.lt_or_ge 310 (natText (digitsValue digits)).length with hHuge | hLength
  · have hMany : 10 ^ 117 ≤ digitsValue digits := by
      by_contra hFew
      have hShort := length_natText_le (by decide) (Nat.lt_of_not_le hFew)
      omega
    have hRounded : 2 ^ 64 * d ≤ roundedWhole (digitsValue digits) 1 := by
      calc 2 ^ 64 * d ≤ 2 ^ 64 * 2 ^ 53 := Nat.mul_le_mul_left _ (Nat.le_of_lt hSmall)
        _ = 2 ^ 117 := rfl
        _ ≤ roundedWhole (digitsValue digits) 1 :=
          two_pow_le_roundedWhole Nat.one_pos (by decide) (Nat.le_trans (by decide) hMany)
    rw [nearestDouble_huge hn hHuge, ofAmount_infinity text hd hSmall negative,
      NumberType.ofInt_long_tooLarge (signed_two_pow_le (two_pow_le_doubleQuotient hd hRounded) negative)]
  · rw [nearestDouble_natural hn hLength]
    exact ofAmount_quotient text hn hd hSmall negative

/-- What a field of 64 bits makes of digits and a divisor. -/
theorem ofAmount_digits (text : String) {digits : List Char} {d : Nat} (hd : d ≠ 0)
    (hSmall : d < 2 ^ 53) (negative : Bool) :
    NumberType.long.ofAmount text (Numeral.toAmount ⟨digits, none, none⟩ negative d) =
      NumberType.long.ofInt text (Binary.signed negative (readQuotient (digitsValue digits) d)) := by
  by_cases hFits : digitsValue digits ≤ 9223372036854775807
  · exact ofAmount_of_fits text hd hSmall negative hFits
  · exact ofAmount_of_large text hd hSmall negative hFits

end LogIngest

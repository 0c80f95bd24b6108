import Mathlib
import LogIngest.Proofs.Decimal.Rounding

/-!
Doubles that hold whole numbers. Main statement: the whole part of a quotient of two whole numbers that is
computed in doubles is the one that rounding to 53 bits gives, first of the dividend and then of the quotient;
there is none only where the quotient is far too large for 64 bits.
-/

namespace LogIngest

open Float.Model (UnpackedFloat Format totalExponent)
open Float.Model.UnpackedFloat (Sign Accuracy ExtendedMantissa accuracyOfFraction unpackSign unpackExponent
  unpackMantissa packComponents unpackMantissa_packComponents unpackExponent_packComponents
  shiftToTargetExponent shiftToExponent roundWithAccuracy divCore)

/-! ## Bits -/

/-- The bias of exponents, evaluated. -/
theorem exponentBias_eq : (Format.binary64.exponentBias : Int) = 1023 :=
  rfl

/-- A sign is told by its bit. -/
theorem ofBitVec_toBitVec (s : Sign) : Sign.ofBitVec s.toBitVec = s := by
  cases s <;> rfl

/-- The sign of a packed double is the one that was packed. -/
theorem unpackSign_packComponents {spec : Format} (sign : Sign) (exponent : BitVec spec.exponentBits)
    (mantissa : BitVec spec.mantissaBitsWithoutImplicit) :
    unpackSign (packComponents spec sign exponent mantissa) = sign.toBitVec := by
  ext i hi
  have hZero : i = 0 := by omega
  subst hZero
  simp [unpackSign, packComponents, BitVec.getLsbD_append, BitVec.getElem_append]

/-- The leading one of a mantissa is not stored. -/
theorem toNat_one_append (fraction : BitVec 52) : (1#1 ++ fraction).toNat = fraction.toNat + 2 ^ 52 := by
  have hOne : (1#1).toNat <<< 52 = 2 ^ 52 := rfl
  rw [BitVec.toNat_append, ← Nat.shiftLeft_add_eq_or_of_lt fraction.isLt, hOne, Nat.add_comm]

/-- A significand of 53 bits is its leading bit and the 52 bits that are stored. -/
theorem toNat_one_append_ofNat {m : Nat} (hBits : m.log2 = 52) : (1#1 ++ BitVec.ofNat 52 m).toNat = m := by
  have hm : m ≠ 0 := by rintro rfl; exact absurd hBits (by decide)
  obtain ⟨hLow, hHigh⟩ := (Nat.log2_eq_iff hm).mp hBits
  have hRest : (BitVec.ofNat 52 m).toNat = m % 2 ^ 52 := BitVec.toNat_ofNat ..
  rw [toNat_one_append, hRest]
  omega

/-- A double with 53 bits and an exponent within its range comes back from its bits. -/
theorem unpack_pack_normal {sign : Sign} {m : Nat} {e : Int} {hm : 0 < m} (hBits : m.log2 = 52)
    (hLeast : -1074 ≤ e) (hGreatest : e ≤ 971) :
    (Float.Model.pack (.finite sign m e hm)).unpack = .finite sign m e hm := by
  obtain ⟨biased, hBiased⟩ : ∃ biased : Nat, e = biased - 1075 := ⟨(e + 1075).toNat, by omega⟩
  have hPack : UnpackedFloat.pack .binary64 (.finite sign m e hm) =
      packComponents .binary64 sign (BitVec.ofNat 11 biased) (BitVec.ofNat 52 m) := by
    have hExponent : (e + (Format.binary64.exponentBias : Int) + (52 : Nat)).toNat = biased := by
      rw [exponentBias_eq]
      omega
    rw [UnpackedFloat.pack]
    simp only [hExponent, hBits]
    rw [if_neg (by omega)]
    rfl
  have hUnpack : (Float.Model.pack (.finite sign m e hm)).unpack =
      UnpackedFloat.unpack .binary64 (UnpackedFloat.pack .binary64 (.finite sign m e hm)) :=
    rfl
  rw [hUnpack, hPack, UnpackedFloat.unpack]
  have hOnes : BitVec.ofNat 11 biased ≠ -1#11 := by
    intro h
    have hValue := congrArg BitVec.toNat h
    simp at hValue
    omega
  have hZeros : BitVec.ofNat 11 biased ≠ 0#11 := by
    intro h
    have hValue := congrArg BitVec.toNat h
    simp at hValue
    omega
  have hToNat : (BitVec.ofNat 11 biased).toNat = biased := by
    rw [BitVec.toNat_ofNat]
    omega
  simp only [unpackMantissa_packComponents, unpackExponent_packComponents, unpackSign_packComponents,
    ofBitVec_toBitVec]
  rw [if_neg hOnes, if_neg hZeros]
  simp only [toNat_one_append_ofNat hBits, hToNat]
  congr 1
  rw [exponentBias_eq]
  omega

/-- An infinity is packed without loss. -/
theorem unpack_pack_infinity (sign : Sign) : (Float.Model.pack (.infinity sign)).unpack = .infinity sign := by
  cases sign <;> rfl

/-- Exponents beyond the range give an infinite double. -/
theorem unpack_pack_tooLarge {sign : Sign} {m : Nat} {e : Int} {hm : 0 < m} (hLarge : 971 < e) :
    (Float.Model.pack (.finite sign m e hm)).unpack = .infinity sign := by
  have hPack : UnpackedFloat.pack .binary64 (.finite sign m e hm) =
      UnpackedFloat.pack .binary64 (.infinity sign) := by
    have hLimit : 2 ^ 11 ≤ (e + 1023 + (52 : Nat)).toNat + 1 := by omega
    simp only [UnpackedFloat.pack, exponentBias_eq]
    exact if_pos hLimit
  have hSame : Float.Model.pack (.finite sign m e hm) = Float.Model.pack (.infinity sign) := by
    simp only [Float.Model.pack, hPack]
  rw [hSame, unpack_pack_infinity]

/-- What an unpacked double denotes. -/
def Binary.ofUnpacked : UnpackedFloat → Binary
  | .finite sign mantissa exponent _ => .finite (sign == .negative) mantissa exponent
  | .zero sign => .finite (sign == .negative) 0 (-1074)
  | .infinity sign => .infinite (sign == .negative)
  | .notANumber => .notANumber

/-- The stored bits of a significand are the lowest ones. -/
theorem toNat_unpackMantissa (b : BitVec 64) :
    (@unpackMantissa .binary64 b).toNat = b.toNat % 2 ^ 52 := by
  simp [unpackMantissa]

/-- The exponent stands above the bits of the significand. -/
theorem toNat_unpackExponent (b : BitVec 64) :
    (@unpackExponent .binary64 b).toNat = b.toNat / 2 ^ 52 % 2 ^ 11 := by
  simp [unpackExponent, Nat.shiftRight_eq_div_pow]

/-- The sign is the highest bit. -/
theorem toNat_unpackSign (b : BitVec 64) :
    (@unpackSign .binary64 b).toNat = b.toNat / 2 ^ 63 := by
  have hBits : b.toNat < 2 ^ 64 := b.isLt
  simp only [unpackSign, BitVec.toNat_cast, BitVec.extractLsb_toNat, Nat.shiftRight_eq_div_pow]
  omega

theorem isNegative_ofBitVec :
    ∀ sign : BitVec 1, (Sign.ofBitVec sign == .negative) = (sign.toNat == 1) := by
  decide

/-- The bits of a double are taken apart as the double itself is. -/
theorem ofFloat_eq (x : Float) : Binary.ofFloat x = .ofUnpacked x.toModel.unpack := by
  have hBits : x.toBits.toNat = x.toModel.toBits.toBitVec.toNat := rfl
  rw [Binary.ofFloat, Binary.ofBits, Float.Model.unpack, UnpackedFloat.unpack, hBits]
  generalize x.toModel.toBits.toBitVec = bits
  simp only [Nat.pow_eq, ← toNat_unpackMantissa, ← toNat_unpackExponent, ← toNat_unpackSign,
    ← isNegative_ofBitVec]
  generalize @unpackSign .binary64 bits = sign
  generalize @unpackExponent .binary64 bits = exponent
  have hFraction : @unpackMantissa .binary64 bits = 0#_ ↔ (@unpackMantissa .binary64 bits).toNat = 0 := by
    rw [BitVec.toNat_eq]
    rfl
  have hInfinite : exponent = -1#_ ↔ exponent.toNat = 2047 := by
    rw [BitVec.toNat_eq]
    rfl
  have hSubnormal : exponent = 0#_ ↔ exponent.toNat = 0 := by
    rw [BitVec.toNat_eq]
    rfl
  by_cases h₁ : exponent.toNat = 2047
  · rw [if_pos (by simpa using h₁), if_pos (hInfinite.mpr h₁)]
    by_cases h₂ : (@unpackMantissa .binary64 bits).toNat = 0
    · rw [if_pos (by simpa using h₂), if_pos (hFraction.mpr h₂)]
      rfl
    · rw [if_neg (by simpa using h₂), if_neg (mt hFraction.mp h₂)]
      rfl
  · rw [if_neg (by simpa using h₁), if_neg (mt hInfinite.mp h₁)]
    by_cases h₂ : exponent.toNat = 0
    · rw [if_pos (by simpa using h₂), if_pos (hSubnormal.mpr h₂)]
      by_cases h₃ : (@unpackMantissa .binary64 bits).toNat = 0
      · rw [dif_pos (hFraction.mpr h₃), h₃]
        rfl
      · rw [dif_neg (mt hFraction.mp h₃)]
        simp only [Binary.ofUnpacked, h₂, exponentBias_eq]
        rfl
    · rw [if_neg (by simpa using h₂), if_neg (mt hSubnormal.mp h₂)]
      have hOne : (1#1 ++ @unpackMantissa .binary64 bits).toNat =
          (@unpackMantissa .binary64 bits).toNat + 2 ^ 52 := toNat_one_append _
      simp only [Binary.ofUnpacked, hOne, exponentBias_eq]
      congr 1

/-! ## Rounding -/

/-- The mantissa of a quotient: its whole part, whether the rest is half of the divisor at least, and whether
there is anything besides. -/
def extendedOf (a b : Nat) : ExtendedMantissa :=
  .ofMantissaAndAccuracy (a / b) (accuracyOfFraction (a % b) b)

/-- What division leaves over is kept as two bits: whether it is at least a half, and whether it is neither
nothing nor just a half. -/
theorem extendedOf_eq {b : Nat} (hb : 0 < b) (a : Nat) :
    extendedOf a b =
      ⟨a / b, decide (b ≤ 2 * (a % b)), decide (a % b ≠ 0 ∧ 2 * (a % b) ≠ b)⟩ := by
  unfold extendedOf accuracyOfFraction
  by_cases hExact : a % b = 0
  · simp [hExact, ExtendedMantissa.ofMantissaAndAccuracy, Nat.not_le.mpr hb]
  · rw [if_neg hExact]
    rcases Nat.lt_trichotomy (2 * (a % b)) b with h | h | h
    · rw [Nat.compare_eq_lt.mpr h]
      simp [ExtendedMantissa.ofMantissaAndAccuracy, Nat.not_le.mpr h, hExact, Nat.ne_of_lt h]
    · rw [Nat.compare_eq_eq.mpr h]
      simp [ExtendedMantissa.ofMantissaAndAccuracy, h]
    · rw [Nat.compare_eq_gt.mpr h]
      simp [ExtendedMantissa.ofMantissaAndAccuracy, Nat.le_of_lt h, hExact, Nat.ne_of_gt h]

/-- The two bits decide the rounding as the accuracy does. -/
theorem roundedMantissa_ofMantissaAndAccuracy (m : Nat) (accuracy : Accuracy) :
    (ExtendedMantissa.ofMantissaAndAccuracy m accuracy).roundedMantissa =
      accuracy.roundToNearestEven m := by
  cases accuracy with
  | exact => rfl
  | inexact order => cases order <;> rfl

/-- Rounding with the two bits is rounding the quotient to even. -/
theorem roundedMantissa_extendedOf {b : Nat} (hb : 0 < b) (a : Nat) :
    (extendedOf a b).roundedMantissa = roundDiv a b .toEven := by
  rw [extendedOf, roundedMantissa_ofMantissaAndAccuracy, accuracyOfFraction, roundDiv]
  by_cases hExact : a % b = 0
  · simp [hExact, hb, Accuracy.roundToNearestEven]
  · rw [if_neg hExact]
    rcases Nat.lt_trichotomy (2 * (a % b)) b with h | h | h
    · rw [Nat.compare_eq_lt.mpr h]
      simp [h, Accuracy.roundToNearestEven]
    · rw [Nat.compare_eq_eq.mpr h]
      rcases Nat.mod_two_eq_zero_or_one (a / b) with hEven | hOdd
      · simp [h, hEven, Accuracy.roundToNearestEven]
      · simp [h, hOdd, Accuracy.roundToNearestEven]
    · rw [Nat.compare_eq_gt.mpr h]
      simp [h, Nat.not_lt.mpr (Nat.le_of_lt h), Accuracy.roundToNearestEven]

/-- A place more in the divisor is one bit shifted out. -/
theorem shiftRightOne_extendedOf {b : Nat} (hb : 0 < b) (a : Nat) :
    (extendedOf a b).shiftRightOne = extendedOf a (b * 2) := by
  have hMod : a % (b * 2) = a % b + b * (a / b % 2) := Nat.mod_mul
  have hLess := Nat.mod_lt a hb
  have hBit : b * (a / b % 2) = 0 ∧ a / b % 2 = 0 ∨ b * (a / b % 2) = b ∧ a / b % 2 = 1 := by
    rcases Nat.mod_two_eq_zero_or_one (a / b) with h | h <;> simp [h]
  rw [extendedOf_eq hb, extendedOf_eq (by omega), ExtendedMantissa.shiftRightOne,
    Nat.div_div_eq_div_mul, ExtendedMantissa.mk.injEq]
  dsimp only
  refine ⟨rfl, ?_, ?_⟩
  · rw [Bool.eq_iff_iff, bne_iff_ne, decide_eq_true_eq]
    omega
  · rw [Bool.eq_iff_iff, Bool.or_eq_true, decide_eq_true_eq, decide_eq_true_eq, decide_eq_true_eq]
    omega

/-- Shifting a quotient to the right divides it further, without losing what is left over. -/
theorem shiftRight_extendedOf {b : Nat} (hb : 0 < b) (a count : Nat) :
    extendedOf a b >>> count = extendedOf a (b * 2 ^ count) := by
  induction count with
  | zero => rw [Nat.pow_zero, Nat.mul_one]; rfl
  | succ count ih =>
      have hStep : extendedOf a b >>> (count + 1) = (extendedOf a b >>> count).shiftRightOne := rfl
      rw [hStep, ih, shiftRightOne_extendedOf (Nat.mul_pos hb (Nat.two_pow_pos count)), Nat.mul_assoc,
        Nat.pow_succ]

/-- The exponent of a double leaves 53 bits, but is never below the least one. -/
theorem targetExponent_eq (total : Int) :
    Format.binary64.targetExponent total = max (total - 53) (-1074) :=
  rfl

/-- A shift to the exponent at which 53 bits are left. -/
theorem shiftToTargetExponent_extended {a b kept : Nat} {e : Int} (hb : 0 < b)
    (hBits : (a / b).log2 = 52 + kept) (hLeast : -1074 ≤ e) :
    shiftToTargetExponent .binary64 (a / b) e (accuracyOfFraction (a % b) b) =
      (extendedOf a (b * 2 ^ kept), e + kept) := by
  have hTarget : (Format.binary64.targetExponent (totalExponent (a / b) e) - e).toNat = kept := by
    rw [targetExponent_eq, totalExponent, hBits]
    omega
  rw [shiftToTargetExponent, shiftToExponent, hTarget, ← shiftRight_extendedOf hb]
  rfl

/-- Nothing is shifted out of a mantissa that has its 53 bits. -/
theorem shiftToTargetExponent_exact {m kept : Nat} {e : Int} (hBits : m.log2 = 52 + kept)
    (hLeast : -1074 ≤ e) :
    shiftToTargetExponent .binary64 m e .exact = (extendedOf m (2 ^ kept), e + kept) := by
  have hOne : shiftToTargetExponent .binary64 (m / 1) e (accuracyOfFraction (m % 1) 1) =
      (extendedOf m (1 * 2 ^ kept), e + kept) :=
    shiftToTargetExponent_extended Nat.one_pos (by rwa [Nat.div_one]) hLeast
  rwa [Nat.div_one, Nat.mod_one, Nat.one_mul] at hOne

/-- What is rounded after a first shift has its 53 bits, and a carry that a second shift takes away. -/
theorem roundWithAccuracy_of_shift {m m' carry : Nat} {e e' : Int} {sign : Sign} {accuracy : Accuracy}
    {first : ExtendedMantissa}
    (hFirst : shiftToTargetExponent .binary64 m e accuracy = (first, e'))
    (hRounded : first.roundedMantissa = m' * 2 ^ carry) (hBits : m'.log2 = 52) (hLeast : -1074 ≤ e')
    (hm' : 0 < m') :
    roundWithAccuracy .binary64 sign m e accuracy = .finite sign m' (e' + carry) hm' := by
  have hLength : (m' * 2 ^ carry).log2 = 52 + carry := by
    rw [log2_mul_two_pow (Nat.ne_of_gt hm'), hBits]
  have hMantissa : (extendedOf (m' * 2 ^ carry) (2 ^ carry)).mantissa = m' := by
    rw [extendedOf_eq (Nat.two_pow_pos carry)]
    exact Nat.mul_div_cancel _ (Nat.two_pow_pos carry)
  rw [roundWithAccuracy, hFirst]
  dsimp only
  rw [hRounded, shiftToTargetExponent_exact hLength hLeast]
  simp only [hMantissa, Nat.ne_of_gt hm', dite_false]

/-- Rounding of a quotient with 53 bits or more. -/
theorem roundWithAccuracy_fraction {a b dropped : Nat} {e : Int} (sign : Sign) (hb : 0 < b)
    (hBits : (a / b).log2 = 52 + dropped) (hLeast : -1074 ≤ e) :
    ∃ m carry hm, roundWithAccuracy .binary64 sign (a / b) e (accuracyOfFraction (a % b) b) =
        .finite sign m (e + dropped + (carry : Nat)) hm ∧
      m.log2 = 52 ∧ m * 2 ^ carry = roundDiv a (b * 2 ^ dropped) .toEven := by
  have hUnit : 0 < b * 2 ^ dropped := Nat.mul_pos hb (Nat.two_pow_pos dropped)
  obtain ⟨m, carry, hMantissa, hValue⟩ := roundDiv_eq_mul_two_pow hBits
  have hm : 0 < m := by
    apply Nat.pos_of_ne_zero
    rintro rfl
    exact absurd hMantissa (by decide)
  have hFirst := shiftToTargetExponent_extended hb hBits hLeast
  have hRounded := (roundedMantissa_extendedOf hUnit a).trans hValue.symm
  exact ⟨m, carry, hm, roundWithAccuracy_of_shift hFirst hRounded hMantissa (by omega) hm, hMantissa,
    hValue⟩

/-! ## Whole numbers -/

/-- Rounding of a mantissa of which nothing has been cut off. -/
theorem roundWithAccuracy_exact {m dropped : Nat} {e : Int} (sign : Sign)
    (hBits : m.log2 = 52 + dropped) (hLeast : -1074 ≤ e) :
    ∃ m' carry hm, roundWithAccuracy .binary64 sign m e .exact =
        .finite sign m' (e + dropped + (carry : Nat)) hm ∧
      m'.log2 = 52 ∧ m' * 2 ^ carry = roundDiv m (2 ^ dropped) .toEven := by
  have hOne := @roundWithAccuracy_fraction m 1 dropped e sign Nat.one_pos (by rwa [Nat.div_one]) hLeast
  rwa [Nat.div_one, Nat.mod_one, Nat.one_mul] at hOne

/-- Zeros behind 53 bits go into the exponent. -/
theorem roundWithAccuracy_fits {m : Nat} {e : Int} (sign : Sign) (hBits : m.log2 = 52)
    (hLeast : -1074 ≤ e) (zeros : Nat) :
    ∃ hm, roundWithAccuracy .binary64 sign (m * 2 ^ zeros) e .exact =
      .finite sign m (e + zeros) hm := by
  have hm : m ≠ 0 := by rintro rfl; exact absurd hBits (by decide)
  have hScaled : (m * 2 ^ zeros).log2 = 52 + zeros := by rw [log2_mul_two_pow hm, hBits]
  have hRounded : (extendedOf (m * 2 ^ zeros) (2 ^ zeros)).roundedMantissa = m * 2 ^ 0 := by
    rw [roundedMantissa_extendedOf (Nat.two_pow_pos zeros),
      roundDiv_of_dvd .toEven (Nat.two_pow_pos zeros) (Nat.dvd_mul_left _ _),
      Nat.mul_div_cancel _ (Nat.two_pow_pos zeros), Nat.pow_zero, Nat.mul_one]
  have hRound := @roundWithAccuracy_of_shift _ _ _ _ _ sign _ _
    (shiftToTargetExponent_exact hScaled hLeast) hRounded hBits (by omega) (Nat.pos_of_ne_zero hm)
  exact ⟨_, hRound.trans (by rw [Int.natCast_zero, Int.add_zero])⟩

/-- A mantissa of 53 bits and an exponent that make up a whole number. -/
structure MakesUp (mantissa scale n : Nat) : Prop where
  bits : mantissa.log2 = 52
  value : mantissa * 2 ^ scale = n * 2 ^ 52

namespace MakesUp

variable {mantissa scale n : Nat}

/-- A significand has just 53 bits. -/
theorem bounds (h : MakesUp mantissa scale n) : 2 ^ 52 ≤ mantissa ∧ mantissa < 2 ^ 53 := by
  have hSome : mantissa ≠ 0 := by
    rintro rfl
    exact absurd h.bits (by decide)
  exact (Nat.log2_eq_iff hSome).mp h.bits

/-- A number of at most 53 bits has its last bit behind the point or just before it. -/
theorem scale_le (h : MakesUp mantissa scale n) (hSmall : n < 2 ^ 53) : scale ≤ 52 := by
  have hPower : 2 ^ 52 * 2 ^ scale < 2 ^ 52 * 2 ^ 53 := by
    calc 2 ^ 52 * 2 ^ scale ≤ mantissa * 2 ^ scale := Nat.mul_le_mul_right _ h.bounds.1
      _ = n * 2 ^ 52 := h.value
      _ < 2 ^ 53 * 2 ^ 52 := Nat.mul_lt_mul_of_pos_right hSmall (Nat.two_pow_pos 52)
      _ = 2 ^ 52 * 2 ^ 53 := Nat.mul_comm _ _
  exact Nat.lt_succ_iff.mp
    ((Nat.pow_lt_pow_iff_right (by decide)).mp (Nat.lt_of_mul_lt_mul_left hPower))

/-- A number is at least as large as its leading bit. -/
theorem two_pow_scale_le (h : MakesUp mantissa scale n) : 2 ^ scale ≤ n := by
  have hPower : 2 ^ 52 * 2 ^ scale ≤ 2 ^ 52 * n := by
    calc 2 ^ 52 * 2 ^ scale ≤ mantissa * 2 ^ scale := Nat.mul_le_mul_right _ h.bounds.1
      _ = n * 2 ^ 52 := h.value
      _ = 2 ^ 52 * n := Nat.mul_comm _ _
  exact Nat.le_of_mul_le_mul_left hPower (Nat.two_pow_pos 52)

end MakesUp

/-- A product of finite doubles is the rounded product of what they hold. -/
theorem mul_finite {s₁ s₂ : Sign} {m₁ m₂ : Nat} {e₁ e₂ : Int} {h₁ : 0 < m₁} {h₂ : 0 < m₂} :
    UnpackedFloat.mul .binary64 (.finite s₁ m₁ e₁ h₁) (.finite s₂ m₂ e₂ h₂) =
      roundWithAccuracy .binary64 (s₁ * s₂) (m₁ * m₂) (e₁ + e₂) .exact :=
  rfl

/-- Numbers with more than 53 bits are rounded once, with 53 places behind the point. -/
theorem toModel_ofNat_eq_round {n : Nat} (hLarge : 2 ^ 53 ≤ n) :
    (Float.ofNat n).toModel =
      Float.Model.pack (roundWithAccuracy .binary64 .positive (n * 2 ^ 53) (-53) .exact) := by
  have hScientific : Float.ofNat n = .ofModel (Float.Model.ofScientific n 0) := by
    change Float.ofScientific n false 0 = _
    rw [Float.ofScientific, dif_neg (by omega)]
    rfl
  have hLimit : ¬(0 : Int) < -(2 ^ 11 + (n.log2 : Int)) := by omega
  rw [hScientific, Float.Model.ofScientific, UnpackedFloat.ofScientific, dif_neg (by omega),
    if_neg (by decide), if_neg hLimit, if_pos (by decide), mul_finite]
  have hMantissa : n <<< Format.binary64.mantissaBits * 10 ^ (0 : Int).toNat = n * 2 ^ 53 := by
    rw [Nat.shiftLeft_eq, Int.toNat_zero, Nat.pow_zero, Nat.mul_one]
    rfl
  have hExponent : -(Format.binary64.mantissaBits : Int) + 0 = -53 := rfl
  have hSign : Sign.positive * Sign.positive = .positive := rfl
  rw [hMantissa, hExponent, hSign]

/-- A number of more than 53 bits becomes the double of its rounded value. -/
theorem toModel_ofNat_of_le {n : Nat} (hLarge : 2 ^ 53 ≤ n) :
    ∃ m x hm, MakesUp m x (roundedWhole n 1) ∧
      (Float.ofNat n).toModel = Float.Model.pack (.finite .positive m ((x : Int) - 52) hm) := by
  have hn : n ≠ 0 := Nat.ne_of_gt (Nat.lt_of_lt_of_le (Nat.two_pow_pos 53) hLarge)
  have hLength : 53 ≤ n.log2 := (Nat.le_log2 hn).mpr hLarge
  obtain ⟨dropped, hDropped⟩ : ∃ dropped, n.log2 = 52 + dropped := ⟨n.log2 - 52, by omega⟩
  have hScaled : (n * 2 ^ 53).log2 = 52 + (dropped + 53) := by
    rw [log2_mul_two_pow hn, hDropped]
    omega
  obtain ⟨m, carry, hm, hRound, hBits, hValue⟩ :=
    @roundWithAccuracy_exact (n * 2 ^ 53) (dropped + 53) (-53) .positive hScaled (by decide)
  have hExponent : (-53 : Int) + (dropped + 53 : Nat) + carry =
      ((52 + dropped + carry : Nat) : Int) - 52 := by
    omega
  refine ⟨m, 52 + dropped + carry, hm, ⟨hBits, ?_⟩, ?_⟩
  · rw [Nat.pow_add, roundDiv_mul_mul _ _ _ (Nat.two_pow_pos 53)] at hValue
    rw [roundedWhole_one_of_log2 hDropped, ← hValue]
    ring
  · rw [toModel_ofNat_eq_round hLarge, hRound, hExponent]

/-- Numbers of at most 53 bits are converted as they are. -/
theorem unpack_ofUInt64 {n x : Nat} (hn : n ≠ 0) (hSmall : n < 2 ^ 53) (hx : n.log2 + x = 52) :
    ∃ hm, (Float.Model.ofUInt64 n.toUInt64).unpack =
      .finite .positive (n * 2 ^ x) ((n.log2 : Int) - 52) hm := by
  have hBits : (n * 2 ^ x).log2 = 52 := by rw [log2_mul_two_pow hn, hx]
  have hShift : (0 - ((n.log2 : Int) - 52)).toNat = x := by omega
  have hModel : Float.Model.ofUInt64 n.toUInt64 =
      Float.Model.pack (UnpackedFloat.round .binary64 .positive n 0) := by
    have hValue : n.toUInt64.toNat = n := Nat.mod_eq_of_lt (by omega)
    have hPositive : compare (n : Int) 0 = .gt := Int.compare_eq_gt.mpr (by omega)
    rw [Float.Model.ofUInt64, UnpackedFloat.ofUInt64, hValue, UnpackedFloat.ofNat,
      UnpackedFloat.ofInt, UnpackedFloat.normalize, hPositive]
    rfl
  have hTarget : Format.binary64.targetExponent (totalExponent n 0) = (n.log2 : Int) - 52 := by
    rw [targetExponent_eq, totalExponent]
    omega
  have hRounded : UnpackedFloat.round .binary64 .positive n 0 =
      roundWithAccuracy .binary64 .positive (n * 2 ^ x * 2 ^ 0) ((n.log2 : Int) - 52) .exact := by
    rw [UnpackedFloat.round, hTarget, UnpackedFloat.decreaseExponent, hShift]
    dsimp only
    rw [Nat.shiftLeft_eq, Nat.pow_zero, Nat.mul_one]
    congr 1
    omega
  obtain ⟨hm, hRound⟩ := @roundWithAccuracy_fits (n * 2 ^ x) ((n.log2 : Int) - 52) .positive hBits
    (by omega) 0
  rw [hModel, hRounded, hRound, Int.natCast_zero, Int.add_zero]
  exact ⟨hm, unpack_pack_normal hBits (by omega) (by omega)⟩

/-- A number of at most 53 bits becomes the double that holds it. -/
theorem toModel_ofNat_of_lt {n : Nat} (hn : n ≠ 0) (hSmall : n < 2 ^ 53) :
    ∃ m x hm, MakesUp m x n ∧
      (Float.ofNat n).toModel = Float.Model.pack (.finite .positive m ((x : Int) - 52) hm) := by
  have hLength : n.log2 ≤ 52 := Nat.lt_succ_iff.mp ((Nat.log2_lt hn).mpr hSmall)
  obtain ⟨x, hx⟩ : ∃ x, n.log2 + x = 52 := ⟨52 - n.log2, by omega⟩
  have hBits : (n * 2 ^ x).log2 = 52 := by rw [log2_mul_two_pow hn, hx]
  -- The number is multiplied by ten to the power of zero, as a double.
  have hProduct : (Float.ofNat n).toModel =
      Float.Model.pack (UnpackedFloat.mul .binary64 (Float.Model.ofUInt64 n.toUInt64).unpack
        (.finite .positive (2 ^ 52) (-52) (by decide))) := by
    have hScientific : Float.ofNat n = n.toUInt64.toFloat * Float.ofBits 0x3FF0000000000000 := by
      change Float.ofScientific n false 0 = _
      rw [Float.ofScientific, dif_pos ⟨hSmall, by decide⟩]
      rfl
    rw [hScientific]
    rfl
  obtain ⟨hm, hConverted⟩ := unpack_ofUInt64 hn hSmall hx
  obtain ⟨hm', hRound⟩ := @roundWithAccuracy_fits (n * 2 ^ x) ((n.log2 : Int) - 52 + -52) .positive hBits
    (by omega) 52
  refine ⟨n * 2 ^ x, n.log2, hm', ⟨hBits, ?_⟩, ?_⟩
  · rw [Nat.mul_assoc, ← Nat.pow_add, Nat.add_comm, hx]
  · have hSign : Sign.positive * Sign.positive = .positive := rfl
    rw [hProduct, hConverted, mul_finite, hSign, hRound]
    congr 2
    omega

/-- The double nearest to a whole number. It is packed as it is, or as infinite where that is too large. -/
theorem toModel_ofNat {n : Nat} (hn : n ≠ 0) :
    ∃ m x hm, MakesUp m x (roundedWhole n 1) ∧
      (Float.ofNat n).toModel = Float.Model.pack (.finite .positive m ((x : Int) - 52) hm) := by
  rcases Nat.lt_or_ge n (2 ^ 53) with hSmall | hLarge
  · rw [roundedWhole_one_of_lt hSmall]
    exact toModel_ofNat_of_lt hn hSmall
  · exact toModel_ofNat_of_le hLarge

/-! ## Quotients -/

/-- The whole part of a double is its significand, shifted as the exponent says. -/
theorem wholePart_eq (m : Nat) (e : Int) :
    (Binary.wholePart m e).1 = m * 2 ^ e.toNat / 2 ^ (-e).toNat := by
  unfold Binary.wholePart
  split
  · next h =>
      have hNone : (-e).toNat = 0 := by omega
      rw [hNone, Nat.pow_zero, Nat.div_one]
      rfl
  · next h =>
      have hNone : e.toNat = 0 := by omega
      rw [hNone, Nat.pow_zero, Nat.mul_one]
      rfl

/-- A carry moves the point without a change of the value. -/
theorem wholePart_carry (m carry p n : Nat) :
    (Binary.wholePart m ((n : Int) - p + carry)).1 =
      m * 2 ^ carry * 2 ^ (n - p) / 2 ^ (p - n) := by
  obtain ⟨cancelled, hUp, hDown⟩ : ∃ cancelled,
      carry + (n - p) = ((n : Int) - p + carry).toNat + cancelled ∧
        p - n = (-((n : Int) - p + carry)).toNat + cancelled :=
    ⟨min carry (p - n), by omega, by omega⟩
  rw [wholePart_eq, Nat.mul_assoc, ← Nat.pow_add, hUp, hDown, Nat.pow_add, Nat.pow_add,
    ← Nat.mul_assoc, Nat.mul_div_mul_right _ _ (Nat.two_pow_pos cancelled)]

/-- Mantissas of 53 bits are divided with 53 places behind the point, and the quotient is rounded. -/
theorem div_finite {sign : Sign} {m x d y : Nat} {hm : 0 < m} {hd : 0 < d} (hDividend : m.log2 = 52)
    (hDivisor : d.log2 = 52) (hScale : y ≤ 52) :
    UnpackedFloat.div .binary64 (.finite sign m ((x : Int) - 52) hm)
        (.finite .positive d ((y : Int) - 52) hd) =
      roundWithAccuracy .binary64 sign (m * 2 ^ 53 / d) ((x : Int) - y - 53)
        (accuracyOfFraction (m * 2 ^ 53 % d) d) := by
  have hSign : sign / Sign.positive = sign := by cases sign <;> rfl
  have hTarget : Format.binary64.targetExponent
      (totalExponent m ((x : Int) - 52) - totalExponent d ((y : Int) - 52)) = (x : Int) - y - 53 := by
    rw [targetExponent_eq, totalExponent, totalExponent, hDividend, hDivisor]
    omega
  have hLeast : min ((x : Int) - 52 - ((y : Int) - 52)) ((x : Int) - y - 53) = (x : Int) - y - 53 := by
    omega
  have hShift : ((x : Int) - 52 - ((y : Int) - 52) - ((x : Int) - y - 53)).toNat = 53 := by omega
  simp only [UnpackedFloat.div, divCore, hTarget, hLeast, hShift, Nat.shiftLeft_eq, hSign]

/-- A quotient of doubles that hold whole numbers, before it is packed: its whole part is that of the quotient
rounded to 53 bits. -/
theorem div_makesUp {sign : Sign} {m x a d y n : Nat} {hm : 0 < m} {hd : 0 < d} (hDividend : MakesUp m x a)
    (hDivisor : MakesUp d y n) (hSmall : n < 2 ^ 53) (hPositive : 0 < n) :
    ∃ m' e' hm', UnpackedFloat.div .binary64 (.finite sign m ((x : Int) - 52) hm)
        (.finite .positive d ((y : Int) - 52) hd) = .finite sign m' e' hm' ∧
      m'.log2 = 52 ∧ -1074 ≤ e' ∧ (Binary.wholePart m' e').1 = roundedWhole a n := by
  have hLowDividend := hDividend.bounds.1
  have hHighDivisor := hDivisor.bounds.2
  have hy : y ≤ 52 := hDivisor.scale_le hSmall
  have hLow : 2 ^ 52 ≤ m * 2 ^ 53 / d := by
    rw [Nat.le_div_iff_mul_le hd]
    exact Nat.mul_le_mul hLowDividend (Nat.le_of_lt hHighDivisor)
  obtain ⟨dropped, hDropped⟩ : ∃ dropped, (m * 2 ^ 53 / d).log2 = 52 + dropped := by
    have hSome : m * 2 ^ 53 / d ≠ 0 := Nat.ne_of_gt (Nat.lt_of_lt_of_le (Nat.two_pow_pos 52) hLow)
    have hLength := (Nat.le_log2 hSome).mpr hLow
    exact ⟨(m * 2 ^ 53 / d).log2 - 52, by omega⟩
  obtain ⟨m', carry, hm', hRound, hBits, hValue⟩ :=
    @roundWithAccuracy_fraction (m * 2 ^ 53) d dropped ((x : Int) - y - 53) sign hd hDropped (by omega)
  have hDiv := (@div_finite sign m x d y hm hd hDividend.bits hDivisor.bits hy).trans hRound
  refine ⟨m', _, hm', hDiv, hBits, by omega, ?_⟩
  -- Dividend and divisor in units of the last bit.
  have hScaled : m * 2 ^ 53 * 2 ^ (x + y) = a * 2 ^ (53 + y) * 2 ^ 52 := by
    calc m * 2 ^ 53 * 2 ^ (x + y) = m * 2 ^ x * 2 ^ (53 + y) := by ring
      _ = a * 2 ^ (53 + y) * 2 ^ 52 := by rw [hDividend.value]; ring
  have hScaled' : d * 2 ^ dropped * 2 ^ (x + y) = n * 2 ^ (dropped + x) * 2 ^ 52 := by
    calc d * 2 ^ dropped * 2 ^ (x + y) = d * 2 ^ y * 2 ^ (dropped + x) := by ring
      _ = n * 2 ^ (dropped + x) * 2 ^ 52 := by rw [hDivisor.value]; ring
  have hRounded : roundDiv (a * 2 ^ (53 + y)) (n * 2 ^ (dropped + x)) .toEven = m' * 2 ^ carry := by
    rw [hValue, ← roundDiv_mul_mul (m * 2 ^ 53) _ _ (Nat.two_pow_pos (x + y)), hScaled, hScaled',
      roundDiv_mul_mul _ _ _ (Nat.two_pow_pos 52)]
  have hLength : (a * 2 ^ (53 + y) / (n * 2 ^ (dropped + x))).log2 = 52 := by
    have hQuotient : a * 2 ^ (53 + y) / (n * 2 ^ (dropped + x)) = m * 2 ^ 53 / d / 2 ^ dropped := by
      rw [← Nat.mul_div_mul_right _ _ (Nat.two_pow_pos 52), ← hScaled, ← hScaled',
        Nat.mul_div_mul_right _ _ (Nat.two_pow_pos (x + y)), Nat.div_div_eq_div_mul]
    rw [hQuotient, log2_div_two_pow (Nat.ne_of_gt (Nat.lt_of_lt_of_le (Nat.two_pow_pos 52) hLow))
      (by omega), hDropped]
    omega
  have hExponent : (x : Int) - y - 53 + dropped + carry =
      ((dropped + x : Nat) : Int) - (53 + y : Nat) + carry := by omega
  rw [hExponent, wholePart_carry, roundedWhole_eq hPositive hSmall hLength, hRounded]

/-- The whole part of a quotient that is computed in doubles: the dividend is rounded to 53 bits, and so is
the quotient of what that gives. -/
def doubleQuotient (dividend divisor : Nat) : Nat :=
  roundedWhole (roundedWhole dividend 1) divisor

/-- The sign of a double. -/
def signOf (negative : Bool) : Sign :=
  if negative then .negative else .positive

/-- A double with a sign put before it. -/
def signedDouble (negative : Bool) (x : Float) : Float :=
  if negative then -x else x

/-- What comes out of packing: the double itself, or infinity where the exponent is too large. -/
theorem unpack_pack_finite {sign : Sign} {m : Nat} {e : Int} {hm : 0 < m} (hBits : m.log2 = 52)
    (hLeast : -1074 ≤ e) :
    e ≤ 971 ∧ (Float.Model.pack (.finite sign m e hm)).unpack = .finite sign m e hm ∨
      971 < e ∧ (Float.Model.pack (.finite sign m e hm)).unpack = .infinity sign := by
  rcases lt_or_ge 971 e with hLarge | hFits
  · exact Or.inr ⟨hLarge, unpack_pack_tooLarge hLarge⟩
  · exact Or.inl ⟨hFits, unpack_pack_normal hBits hLeast hFits⟩

/-- The double nearest to a whole number, with a sign. It is infinite where the number has more than 1024
bits. -/
theorem unpack_signedDouble_ofNat {n : Nat} (hn : n ≠ 0) (negative : Bool) :
    ∃ m x hm, MakesUp m x (roundedWhole n 1) ∧
      (x ≤ 1023 ∧ (signedDouble negative (Float.ofNat n)).toModel.unpack =
          .finite (signOf negative) m ((x : Int) - 52) hm ∨
        1023 < x ∧ (signedDouble negative (Float.ofNat n)).toModel.unpack =
          .infinity (signOf negative)) := by
  obtain ⟨m, x, hm, hMakes, hModel⟩ := toModel_ofNat hn
  refine ⟨m, x, hm, hMakes, ?_⟩
  have hPositive := @unpack_pack_finite .positive m ((x : Int) - 52) hm hMakes.bits (by omega)
  rw [← hModel] at hPositive
  cases negative with
  | false =>
      rcases hPositive with ⟨hFits, hUnpack⟩ | ⟨hLarge, hUnpack⟩
      · exact Or.inl ⟨by omega, hUnpack⟩
      · exact Or.inr ⟨by omega, hUnpack⟩
  | true =>
      have hNeg : (signedDouble true (Float.ofNat n)).toModel =
          Float.Model.pack (Float.ofNat n).toModel.unpack.neg := rfl
      rcases hPositive with ⟨hFits, hUnpack⟩ | ⟨hLarge, hUnpack⟩
      · refine Or.inl ⟨by omega, ?_⟩
        rw [hNeg, hUnpack]
        exact unpack_pack_normal hMakes.bits (by omega) hFits
      · refine Or.inr ⟨by omega, ?_⟩
        rw [hNeg, hUnpack]
        exact unpack_pack_infinity .negative

/-- A quotient of an infinite double has no whole part. -/
theorem truncate?_div_infinity {x y : Float} {s₁ s₂ : Sign} {m : Nat} {e : Int} {hm : 0 < m}
    (hx : x.toModel.unpack = .infinity s₁) (hy : y.toModel.unpack = .finite s₂ m e hm) :
    (Binary.ofFloat (x / y)).truncate? = none := by
  have hDiv : (x / y).toModel =
      Float.Model.pack (UnpackedFloat.div .binary64 x.toModel.unpack y.toModel.unpack) := rfl
  rw [ofFloat_eq, hDiv, hx, hy]
  simp only [UnpackedFloat.div, unpack_pack_infinity]
  rfl

/-- A whole number of 53 bits as a double. -/
theorem unpack_ofNat {n : Nat} (hn : n ≠ 0) (hSmall : n < 2 ^ 53) :
    ∃ m x hm, MakesUp m x n ∧ x ≤ 52 ∧
      (Float.ofNat n).toModel.unpack = .finite .positive m ((x : Int) - 52) hm := by
  obtain ⟨m, x, hm, hMakes, hModel⟩ := toModel_ofNat_of_lt hn hSmall
  have hScale : x ≤ 52 := hMakes.scale_le hSmall
  rw [hModel]
  exact ⟨m, x, hm, hMakes, hScale, unpack_pack_normal hMakes.bits (by omega) (by omega)⟩

/-- The quotient of a dividend that is too large stays too large. -/
theorem two_pow_le_doubleQuotient {n d : Nat} (hd : d ≠ 0) (hLarge : 2 ^ 64 * d ≤ roundedWhole n 1) :
    2 ^ 64 ≤ doubleQuotient n d :=
  two_pow_le_roundedWhole (Nat.pos_of_ne_zero hd) (by decide) hLarge

/-- A whole number divided by another one of at most 53 bits, as doubles. There is no whole part only where
it would be far too large for 64 bits. -/
theorem truncate?_quotient {n d : Nat} (hn : n ≠ 0) (hd : d ≠ 0) (hSmall : d < 2 ^ 53)
    (negative : Bool) :
    (Binary.ofFloat (signedDouble negative (Float.ofNat n) / Float.ofNat d)).truncate? =
        some (Binary.signed negative (doubleQuotient n d)) ∨
      2 ^ 64 ≤ doubleQuotient n d ∧
        (Binary.ofFloat (signedDouble negative (Float.ofNat n) / Float.ofNat d)).truncate? = none := by
  obtain ⟨m, x, hm, hDividend, hUnpack⟩ := unpack_signedDouble_ofNat hn negative
  obtain ⟨m₂, y, hm₂, hDivisor, -, hUnpackDivisor⟩ := unpack_ofNat hd hSmall
  rcases hUnpack with ⟨hFinite, hUnpack⟩ | ⟨hInfinite, hUnpack⟩
  · obtain ⟨m', e', hm', hDiv, hBits, hLeast, hWhole⟩ := @div_makesUp (signOf negative) _ _ _ _ _ _ hm
      hm₂ hDividend hDivisor hSmall (Nat.pos_of_ne_zero hd)
    have hQuotient : (signedDouble negative (Float.ofNat n) / Float.ofNat d).toModel =
        Float.Model.pack (.finite (signOf negative) m' e' hm') := by
      rw [← hDiv, ← hUnpack, ← hUnpackDivisor]
      rfl
    rcases @unpack_pack_finite (signOf negative) m' e' hm' hBits hLeast with ⟨-, h⟩ | ⟨hLarge, h⟩
    · left
      rw [ofFloat_eq, hQuotient, h]
      have hSign : (signOf negative == .negative) = negative := by cases negative <;> rfl
      simp only [Binary.ofUnpacked, Binary.truncate?, hSign, hWhole]
      rfl
    · right
      constructor
      · calc 2 ^ 64 ≤ 2 ^ e'.toNat := Nat.pow_le_pow_right (by decide) (by omega)
          _ ≤ m' * 2 ^ e'.toNat := Nat.le_mul_of_pos_left _ hm'
          _ = doubleQuotient n d := by
            rw [doubleQuotient, ← hWhole, wholePart_eq, show (-e').toNat = 0 by omega, Nat.pow_zero,
              Nat.div_one]
      · rw [ofFloat_eq, hQuotient, h]
        rfl
  · right
    constructor
    · apply two_pow_le_doubleQuotient hd
      calc 2 ^ 64 * d ≤ 2 ^ 64 * 2 ^ 53 := Nat.mul_le_mul_left _ (Nat.le_of_lt hSmall)
        _ = 2 ^ (64 + 53) := (Nat.pow_add 2 64 53).symm
        _ ≤ 2 ^ x := Nat.pow_le_pow_right (by decide) (by omega)
        _ ≤ roundedWhole n 1 := hDividend.two_pow_scale_le
    · exact truncate?_div_infinity hUnpack hUnpackDivisor

end LogIngest

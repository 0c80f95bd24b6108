import Mathlib.Algebra.Group.Nat.Defs
import LogIngest.Decimal.Binary

/-!
Rounding to 53 bits. Main statement: the whole part of a quotient is the same with and without rounding as
long as the dividend has no more than 53 bits and the divisor is small.
-/

namespace LogIngest

/-- The whole part of a quotient that has been rounded to 53 bits, of which the last is the nearer to the
point the smaller the quotient is. -/
def roundedWhole (numerator denominator : Nat) : Nat :=
  let length := (numerator / denominator).log2
  roundDiv (numerator * 2 ^ (52 - length)) (denominator * 2 ^ (length - 52)) .toEven
    * 2 ^ (length - 52) / 2 ^ (52 - length)

section

variable {a b c : Nat}

theorem roundDiv_eq_or (a b : Nat) (tie : Tie) :
    roundDiv a b tie = a / b ∨ roundDiv a b tie = a / b + 1 := by
  unfold roundDiv
  dsimp only
  split
  · exact Or.inl rfl
  · split
    · exact Or.inr rfl
    · cases tie with
      | up => exact Or.inr rfl
      | toEven =>
          dsimp only
          split
          · exact Or.inl rfl
          · exact Or.inr rfl

theorem le_roundDiv (a b : Nat) (tie : Tie) : a / b ≤ roundDiv a b tie := by
  have h := roundDiv_eq_or a b tie
  omega

theorem roundDiv_le (a b : Nat) (tie : Tie) : roundDiv a b tie ≤ a / b + 1 := by
  have h := roundDiv_eq_or a b tie
  omega

/-- A quotient does not change when both sides are multiplied. -/
theorem roundDiv_mul_mul (a b : Nat) (tie : Tie) (hc : 0 < c) :
    roundDiv (a * c) (b * c) tie = roundDiv a b tie := by
  have hDiv : a * c / (b * c) = a / b := Nat.mul_div_mul_right a b hc
  have hMod : 2 * (a * c % (b * c)) = 2 * (a % b) * c := by
    rw [Nat.mul_mod_mul_right, Nat.mul_assoc]
  simp only [roundDiv, hDiv, hMod, Nat.mul_lt_mul_right hc]

theorem roundDiv_of_dvd (tie : Tie) (hb : 0 < b) (h : b ∣ a) : roundDiv a b tie = a / b := by
  have hLeft : 2 * (a % b) < b := by rw [Nat.mod_eq_zero_of_dvd h]; exact hb
  simp [roundDiv, hLeft]

/-- Powers of two on both sides cancel out. -/
theorem mul_two_pow_sub (a : Nat) {p n : Nat} :
    a * 2 ^ p = a * 2 ^ (p - n) * 2 ^ min p n := by
  rw [Nat.mul_assoc, ← Nat.pow_add]
  congr 2
  omega

theorem roundDiv_two_pow (a b : Nat) (tie : Tie) (p n : Nat) :
    roundDiv (a * 2 ^ p) (b * 2 ^ n) tie =
      roundDiv (a * 2 ^ (p - n)) (b * 2 ^ (n - p)) tie := by
  rw [mul_two_pow_sub a, @mul_two_pow_sub b n p, Nat.min_comm n p]
  exact roundDiv_mul_mul _ _ tie (Nat.two_pow_pos _)

theorem div_two_pow (a b p n : Nat) :
    a * 2 ^ p / (b * 2 ^ n) = a * 2 ^ (p - n) / (b * 2 ^ (n - p)) := by
  rw [mul_two_pow_sub a, @mul_two_pow_sub b n p, Nat.min_comm n p]
  exact Nat.mul_div_mul_right _ _ (Nat.two_pow_pos _)

theorem log2_mul_two_pow {n : Nat} (hn : n ≠ 0) (k : Nat) : (n * 2 ^ k).log2 = n.log2 + k := by
  have hPow := Nat.two_pow_pos k
  refine (Nat.log2_eq_iff (Nat.mul_ne_zero hn (Nat.ne_of_gt hPow))).mpr ⟨?_, ?_⟩
  · rw [Nat.pow_add]
    exact Nat.mul_le_mul_right _ (Nat.log2_self_le hn)
  · rw [show n.log2 + k + 1 = n.log2 + 1 + k by omega, Nat.pow_add]
    exact Nat.mul_lt_mul_of_pos_right Nat.lt_log2_self hPow

theorem log2_div_two_pow {n k : Nat} (hn : n ≠ 0) (h : k ≤ n.log2) :
    (n / 2 ^ k).log2 = n.log2 - k := by
  obtain ⟨l, hl⟩ := Nat.exists_eq_add_of_le h
  have hLow : 2 ^ l ≤ n / 2 ^ k := by
    rw [Nat.le_div_iff_mul_le (Nat.two_pow_pos k), ← Nat.pow_add, Nat.add_comm, ← hl]
    exact Nat.log2_self_le hn
  have hHigh : n / 2 ^ k < 2 ^ (l + 1) := by
    rw [Nat.div_lt_iff_lt_mul (Nat.two_pow_pos k), ← Nat.pow_add,
      show l + 1 + k = n.log2 + 1 by omega]
    exact Nat.lt_log2_self
  have hSome : n / 2 ^ k ≠ 0 := Nat.ne_of_gt (Nat.lt_of_lt_of_le (Nat.two_pow_pos l) hLow)
  rw [(Nat.log2_eq_iff hSome).mpr ⟨hLow, hHigh⟩, hl]
  omega

/-- A quotient that is nearer to a smaller number than to the given one is not rounded up to it. -/
theorem roundDiv_lt {k : Nat} (tie : Tie) (hb : 0 < b) (h : 2 * a + b < 2 * (k * b)) :
    roundDiv a b tie < k := by
  have hSplit := Nat.div_add_mod a b
  have hMod := Nat.mod_lt a hb
  have hQuotient : a / b < k := by
    rw [Nat.div_lt_iff_lt_mul hb]
    omega
  rcases roundDiv_eq_or a b tie with hDown | hUp
  · rw [hDown]
    exact hQuotient
  · rcases Nat.lt_or_ge (a / b + 1) k with hLess | hAll
    · rwa [hUp]
    · -- The quotient is the number before `k`, and the rest is less than half of the divisor.
      have hLast : k = a / b + 1 := by omega
      have hRest : 2 * (a % b) < b := by
        rw [hLast, Nat.add_mul, Nat.one_mul, Nat.mul_comm (a / b)] at h
        omega
      have hDown : roundDiv a b tie = a / b := by simp [roundDiv, hRest]
      rw [hDown]
      exact hQuotient

/-- What is kept of a dividend of at most 53 bits leaves the whole part as it is. -/
theorem roundDiv_div_two_pow {y : Nat} (hb : 0 < b) (hUnit : b < 2 ^ (y + 1)) :
    roundDiv (a * 2 ^ y) b .toEven / 2 ^ y = a / b := by
  have hPow : 0 < 2 ^ y := Nat.two_pow_pos y
  have hWhole : a * 2 ^ y / b / 2 ^ y = a / b := by
    rw [Nat.div_div_eq_div_mul, Nat.mul_div_mul_right _ _ hPow]
  have hLow : a / b ≤ roundDiv (a * 2 ^ y) b .toEven / 2 ^ y := by
    rw [← hWhole]
    exact Nat.div_le_div_right (le_roundDiv _ _ _)
  have hHigh : roundDiv (a * 2 ^ y) b .toEven < (a / b + 1) * 2 ^ y := by
    apply roundDiv_lt .toEven hb
    have hNext : a + 1 ≤ (a / b + 1) * b := Nat.lt_mul_of_div_lt (Nat.lt_succ_self _) hb
    have hScaled := Nat.mul_le_mul_right (2 ^ y) hNext
    rw [Nat.add_mul, Nat.one_mul] at hScaled
    rw [Nat.pow_succ] at hUnit
    have hOrder : (a / b + 1) * 2 ^ y * b = (a / b + 1) * b * 2 ^ y := Nat.mul_right_comm _ _ _
    omega
  have hLess := (Nat.div_lt_iff_lt_mul hPow).mpr hHigh
  omega

/-- The whole part of a quotient of numbers with 53 bits at most is exact. -/
theorem roundedWhole_of_lt (ha : a < 2 ^ 53) (hb : 0 < b) (hDivisor : b < 2 ^ 53) :
    roundedWhole a b = a / b := by
  have hLength : (a / b).log2 ≤ 52 := by
    by_cases hZero : a / b = 0
    · simp [hZero]
    · have hLess := (Nat.log2_lt hZero).mpr (Nat.lt_of_le_of_lt (Nat.div_le_self a b) ha)
      omega
  have hUnit : b < 2 ^ (52 - (a / b).log2 + 1) := by
    by_cases hZero : a / b = 0
    · rwa [hZero]
    · have hLow := Nat.log2_self_le hZero
      have hProduct : b * 2 ^ (a / b).log2 < 2 ^ (52 - (a / b).log2 + 1) * 2 ^ (a / b).log2 := by
        rw [← Nat.pow_add, show 52 - (a / b).log2 + 1 + (a / b).log2 = 53 by omega]
        calc b * 2 ^ (a / b).log2 ≤ b * (a / b) := Nat.mul_le_mul_left b hLow
          _ ≤ a := Nat.mul_div_le a b
          _ < 2 ^ 53 := ha
      exact Nat.lt_of_mul_lt_mul_right hProduct
  have hDropped : (a / b).log2 - 52 = 0 := by omega
  simp only [roundedWhole, hDropped, Nat.pow_zero, Nat.mul_one]
  exact roundDiv_div_two_pow hb hUnit

/-- A whole number of 53 bits is its own nearest double. -/
theorem roundedWhole_one_of_lt (ha : a < 2 ^ 53) : roundedWhole a 1 = a := by
  rw [roundedWhole_of_lt ha Nat.one_pos (by decide), Nat.div_one]

/-- Rounding never falls below a power of two of 53 bits or more. -/
theorem two_pow_le_roundedWhole {k : Nat} (hb : 0 < b) (hBits : 52 ≤ k) (h : 2 ^ k * b ≤ a) :
    2 ^ k ≤ roundedWhole a b := by
  have hQuotient : 2 ^ k ≤ a / b := (Nat.le_div_iff_mul_le hb).mpr h
  have hSome : a / b ≠ 0 := Nat.ne_of_gt (Nat.lt_of_lt_of_le (Nat.two_pow_pos k) hQuotient)
  have hLength : k ≤ (a / b).log2 := (Nat.le_log2 hSome).mpr hQuotient
  obtain ⟨dropped, hDropped⟩ : ∃ dropped, (a / b).log2 = 52 + dropped :=
    ⟨(a / b).log2 - 52, by omega⟩
  have hLow : 2 ^ 52 ≤ a / (b * 2 ^ dropped) := by
    rw [← Nat.div_div_eq_div_mul, Nat.le_div_iff_mul_le (Nat.two_pow_pos dropped), ← Nat.pow_add,
      ← hDropped]
    exact Nat.log2_self_le hSome
  have hPlaces : 52 - (52 + dropped) = 0 := by omega
  have hUnits : 52 + dropped - 52 = dropped := by omega
  simp only [roundedWhole, hDropped, hPlaces, hUnits, Nat.pow_zero, Nat.mul_one, Nat.div_one]
  calc 2 ^ k ≤ 2 ^ (52 + dropped) := Nat.pow_le_pow_right (by decide) (by omega)
    _ = 2 ^ 52 * 2 ^ dropped := Nat.pow_add 2 52 dropped
    _ ≤ roundDiv a (b * 2 ^ dropped) .toEven * 2 ^ dropped :=
      Nat.mul_le_mul_right _ (Nat.le_trans hLow (le_roundDiv _ _ _))

/-- The length of a quotient of which 53 bits are left when the last of them are dropped. -/
theorem log2_div_of_dropped {x : Nat} (hBits : (a / (b * 2 ^ x)).log2 = 52) :
    (a / b).log2 = 52 + x := by
  rw [← Nat.div_div_eq_div_mul] at hBits
  have hSome : a / b / 2 ^ x ≠ 0 := by
    intro h
    rw [h] at hBits
    exact absurd hBits (by decide)
  obtain ⟨hLow, hHigh⟩ := (Nat.log2_eq_iff hSome).mp hBits
  rw [Nat.le_div_iff_mul_le (Nat.two_pow_pos x), ← Nat.pow_add] at hLow
  rw [Nat.div_lt_iff_lt_mul (Nat.two_pow_pos x), ← Nat.pow_add] at hHigh
  have hLess : a / b < 2 ^ (52 + x + 1) := by
    rwa [show 52 + x + 1 = 52 + 1 + x by omega]
  exact (Nat.log2_eq_iff (Nat.ne_of_gt (Nat.lt_of_lt_of_le (Nat.two_pow_pos _) hLow))).mpr ⟨hLow, hLess⟩

/-- The length of a quotient that has 53 bits with some places behind the point. -/
theorem log2_div_of_places {y : Nat} (hb : 0 < b) (hWhole : b ≤ a)
    (hBits : (a * 2 ^ y / b).log2 = 52) : (a / b).log2 + y = 52 := by
  have hSome : a / b ≠ 0 := Nat.ne_of_gt (Nat.div_pos hWhole hb)
  have hScaled : a * 2 ^ y / b ≠ 0 := by
    intro h
    rw [h] at hBits
    exact absurd hBits (by decide)
  obtain ⟨hLow, hHigh⟩ := (Nat.log2_eq_iff hScaled).mp hBits
  rw [Nat.le_div_iff_mul_le hb] at hLow
  rw [Nat.div_lt_iff_lt_mul hb] at hHigh
  have hFrom : b * 2 ^ (a / b).log2 ≤ a :=
    Nat.le_trans (Nat.mul_le_mul_left b (Nat.log2_self_le hSome)) (Nat.mul_div_le a b)
  have hTo : a < b * 2 ^ ((a / b).log2 + 1) := by
    rw [Nat.mul_comm, ← Nat.div_lt_iff_lt_mul hb]
    exact Nat.lt_log2_self
  have hAtMost : (a / b).log2 + y < 53 := by
    have h : b * 2 ^ ((a / b).log2 + y) < b * 2 ^ 53 := by
      calc b * 2 ^ ((a / b).log2 + y) = b * 2 ^ (a / b).log2 * 2 ^ y := by
            rw [Nat.pow_add, Nat.mul_assoc]
        _ ≤ a * 2 ^ y := Nat.mul_le_mul_right _ hFrom
        _ < 2 ^ 53 * b := hHigh
        _ = b * 2 ^ 53 := Nat.mul_comm _ _
    exact (Nat.pow_lt_pow_iff_right (by decide)).mp (Nat.lt_of_mul_lt_mul_left h)
  have hAtLeast : 52 < (a / b).log2 + 1 + y := by
    have h : b * 2 ^ 52 < b * 2 ^ ((a / b).log2 + 1 + y) := by
      calc b * 2 ^ 52 = 2 ^ 52 * b := Nat.mul_comm _ _
        _ ≤ a * 2 ^ y := hLow
        _ < b * 2 ^ ((a / b).log2 + 1) * 2 ^ y := Nat.mul_lt_mul_of_pos_right hTo (Nat.two_pow_pos y)
        _ = b * 2 ^ ((a / b).log2 + 1 + y) := by rw [Nat.mul_assoc, ← Nat.pow_add]
    exact (Nat.pow_lt_pow_iff_right (by decide)).mp (Nat.lt_of_mul_lt_mul_left h)
  omega

/-- A quotient that is rounded to 53 bits has 53 bits, or is the power of two behind them. -/
theorem roundDiv_eq_mul_two_pow {dropped : Nat} (hBits : (a / b).log2 = 52 + dropped) :
    ∃ m carry, m.log2 = 52 ∧ m * 2 ^ carry = roundDiv a (b * 2 ^ dropped) .toEven := by
  have hSome : a / b ≠ 0 := by
    intro h
    rw [h, Nat.log2_zero] at hBits
    omega
  have hLength : (a / (b * 2 ^ dropped)).log2 = 52 := by
    rw [← Nat.div_div_eq_div_mul, log2_div_two_pow hSome (by omega), hBits]
    omega
  have hKept : a / (b * 2 ^ dropped) ≠ 0 := by
    intro h
    rw [h] at hLength
    exact absurd hLength (by decide)
  obtain ⟨hLow, hHigh⟩ := (Nat.log2_eq_iff hKept).mp hLength
  have hLowRounded := Nat.le_trans hLow (le_roundDiv a (b * 2 ^ dropped) .toEven)
  have hHighRounded := Nat.le_trans (roundDiv_le a (b * 2 ^ dropped) .toEven) hHigh
  rcases Nat.eq_or_lt_of_le hHighRounded with hCarry | hNone
  · exact ⟨2 ^ 52, 1, Nat.log2_two_pow, hCarry.symm⟩
  · exact ⟨_, 0, (Nat.log2_eq_iff (by omega)).mpr ⟨hLowRounded, hNone⟩, Nat.mul_one _⟩

/-- The unit of the last of 53 bits may be found on any common scale of dividend and divisor. -/
theorem roundedWhole_eq {p n : Nat} (hb : 0 < b) (hDivisor : b < 2 ^ 53)
    (hBits : (a * 2 ^ p / (b * 2 ^ n)).log2 = 52) :
    roundedWhole a b = roundDiv (a * 2 ^ p) (b * 2 ^ n) .toEven * 2 ^ (n - p) / 2 ^ (p - n) := by
  rw [div_two_pow] at hBits
  rw [roundDiv_two_pow]
  rcases Nat.le_total p n with hScale | hScale
  · have hNone : p - n = 0 := by omega
    rw [hNone, Nat.pow_zero, Nat.mul_one] at hBits ⊢
    have hLength := log2_div_of_dropped hBits
    have hPlaces : 52 - (52 + (n - p)) = 0 := by omega
    have hUnits : 52 + (n - p) - 52 = n - p := by omega
    simp only [roundedWhole, hLength, hPlaces, hUnits, Nat.pow_zero, Nat.mul_one]
  · have hNone : n - p = 0 := by omega
    rw [hNone, Nat.pow_zero, Nat.mul_one] at hBits ⊢
    rw [Nat.mul_one]
    rcases Nat.lt_or_ge a b with hLess | hWhole
    · -- Less than one stays less than one.
      have hFine : b < 2 ^ (p - n + 1) := by
        have hScaled : a * 2 ^ (p - n) / b ≠ 0 := by
          intro h
          rw [h] at hBits
          exact absurd hBits (by decide)
        have hLow := ((Nat.log2_eq_iff hScaled).mp hBits).1
        rw [Nat.le_div_iff_mul_le hb, Nat.mul_comm] at hLow
        have hPower : b * 2 ^ 52 < b * 2 ^ (p - n) :=
          Nat.lt_of_le_of_lt hLow (Nat.mul_lt_mul_of_pos_right hLess (Nat.two_pow_pos _))
        have hMore : 52 < p - n :=
          (Nat.pow_lt_pow_iff_right (by decide)).mp (Nat.lt_of_mul_lt_mul_left hPower)
        exact Nat.lt_of_lt_of_le hDivisor (Nat.pow_le_pow_right (by decide) (by omega))
      rw [roundDiv_div_two_pow hb hFine, roundedWhole_of_lt (by omega) hb hDivisor]
    · have hLength := log2_div_of_places hb hWhole hBits
      have hPlaces : 52 - (a / b).log2 = p - n := by omega
      have hUnits : (a / b).log2 - 52 = 0 := by omega
      simp only [roundedWhole, hPlaces, hUnits, Nat.pow_zero, Nat.mul_one]

end

/-! ## Whole numbers at the end of 64 bits -/

/-- Whole numbers with more than 53 bits lose the others. -/
theorem roundedWhole_one_of_log2 {n dropped : Nat} (hLength : n.log2 = 52 + dropped) :
    roundedWhole n 1 = roundDiv n (2 ^ dropped) .toEven * 2 ^ dropped := by
  have hPlaces : 52 - (52 + dropped) = 0 := by omega
  have hUnits : 52 + dropped - 52 = dropped := by omega
  simp only [roundedWhole, Nat.div_one, hLength, hPlaces, hUnits, Nat.pow_zero, Nat.mul_one,
    Nat.one_mul]

/-- Just above 2^63, numbers become 2^63 as doubles up to the middle between it and the next double, where
2^63 is the even one of the two. -/
theorem roundedWhole_one_of_le {n : Nat} (hLow : 2 ^ 63 ≤ n) (h : n ≤ 2 ^ 63 + 1024) :
    roundedWhole n 1 = 2 ^ 63 := by
  have hLength : n.log2 = 52 + 11 := (Nat.log2_eq_iff (by omega)).mpr ⟨hLow, by omega⟩
  have hUnit : 2 ^ 11 = 2048 := rfl
  have hQuotient : n / 2048 = 2 ^ 52 := by omega
  have hNotUp : ¬2048 < 2 * (n % 2048) := by omega
  have hDown : roundDiv n 2048 .toEven = 2 ^ 52 := by simp [roundDiv, hQuotient, hNotUp]
  rw [roundedWhole_one_of_log2 hLength, hUnit, hDown]
  omega

/-- Beyond the middle they become the next double at least. -/
theorem le_roundedWhole_one {n : Nat} (h : 2 ^ 63 + 1024 < n) : 2 ^ 63 + 2048 ≤ roundedWhole n 1 := by
  rcases Nat.lt_or_ge n (2 ^ 64) with hHigh | hHigh
  · have hLength : n.log2 = 52 + 11 := (Nat.log2_eq_iff (by omega)).mpr ⟨by omega, hHigh⟩
    have hUnit : 2 ^ 11 = 2048 := rfl
    rw [roundedWhole_one_of_log2 hLength, hUnit]
    suffices hQuotient : 2 ^ 52 + 1 ≤ roundDiv n 2048 .toEven by omega
    rcases Nat.lt_or_ge n (2 ^ 63 + 2048) with hNear | hFar
    · have hDown : ¬2 * (n % 2048) < 2048 := by omega
      have hUp : 2048 < 2 * (n % 2048) := by omega
      simp only [roundDiv, if_neg hDown, if_pos hUp]
      omega
    · have hLow := le_roundDiv n 2048 .toEven
      omega
  · have hLarge : 2 ^ 64 ≤ roundedWhole n 1 :=
      two_pow_le_roundedWhole Nat.one_pos (by decide) (by omega)
    omega

end LogIngest

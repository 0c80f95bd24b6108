import LogIngest.Proofs.Field.Quotients

/-!
Exact quotients. Main statement: a field of 64 bits with a format reads digits between the texts of the format
as their number divided by the divisor of the format, without what is behind the point, as long as the way
through doubles keeps that quotient; for small numbers, for those that leave nothing over and for those that
are far too large it does. Without a divisor it does for all but 1024 numbers below the least of 64 bits, and
on all others the format agrees with the plain way to read whole numbers.
-/

namespace LogIngest

open NumberFormat (Extends Writes Numeral)

/-- What 64 bits can hold. -/
def FitsLong (n : Int) : Prop :=
  -9223372036854775808 ≤ n ∧ n ≤ 9223372036854775807

instance (n : Int) : Decidable (FitsLong n) :=
  inferInstanceAs (Decidable (_ ∧ _))

/-- What a field of 64 bits should make of a text for a whole number that is divided: the quotient, without
what is behind its point, if that fits. -/
def exactQuotient (text : String) (n : Int) (divisor : Nat) : Except FieldError FieldValue :=
  if FitsLong (n.tdiv divisor) then .ok (.long (Int64.ofInt (n.tdiv divisor)))
  else .error (.numberOutOfRange text "long")

/-- Whether the quotient that is read is the exact one, or both are too large. -/
def KeepsQuotient (negative : Bool) (n divisor : Nat) : Prop :=
  readQuotient n divisor = n / divisor ∨
    ¬FitsLong (Binary.signed negative (readQuotient n divisor)) ∧
      ¬FitsLong (Binary.signed negative (n / divisor))

/-- The exact quotient has no places behind the point. -/
theorem exactQuotient_eq_ofInt (text : String) (n : Int) (divisor : Nat) :
    exactQuotient text n divisor = NumberType.long.ofInt text (n.tdiv divisor) := by
  unfold exactQuotient
  split
  · next h => exact (NumberType.ofInt_long h).symm
  · next h => exact (NumberType.ofInt_long_tooLarge h).symm

/-- Two numbers are read alike if they are the same or if neither fits. -/
theorem ofInt_eq_ofInt_iff {text : String} {a b : Int} :
    NumberType.long.ofInt text a = NumberType.long.ofInt text b ↔
      a = b ∨ ¬FitsLong a ∧ ¬FitsLong b := by
  by_cases ha : FitsLong a
  · rw [NumberType.ofInt_long ha]
    by_cases hb : FitsLong b
    · rw [NumberType.ofInt_long hb]
      have hValues : (Int64.ofInt a).toInt = a ∧ (Int64.ofInt b).toInt = b :=
        ⟨Int64.toInt_ofInt_of_le ha.1 (Int.lt_add_one_of_le ha.2),
          Int64.toInt_ofInt_of_le hb.1 (Int.lt_add_one_of_le hb.2)⟩
      constructor
      · intro h
        injection h with h
        injection h with h
        rw [← hValues.1, h, hValues.2]
        exact .inl rfl
      · rintro (rfl | ⟨hNot, -⟩)
        · rfl
        · exact absurd ha hNot
    · rw [NumberType.ofInt_long_tooLarge hb]
      constructor
      · nofun
      · rintro (rfl | ⟨hNot, -⟩)
        · exact absurd ha hb
        · exact absurd ha hNot
  · rw [NumberType.ofInt_long_tooLarge ha]
    by_cases hb : FitsLong b
    · rw [NumberType.ofInt_long hb]
      constructor
      · nofun
      · rintro (rfl | ⟨-, hNot⟩)
        · exact absurd hb ha
        · exact absurd hb hNot
    · rw [NumberType.ofInt_long_tooLarge hb]
      exact ⟨fun _ => .inr ⟨ha, hb⟩, fun _ => rfl⟩

/-- A sign changes no comparison of numbers. -/
theorem signed_inj {negative : Bool} {a b : Nat} :
    Binary.signed negative a = Binary.signed negative b ↔ a = b := by
  cases negative with
  | false => exact Int.natCast_inj
  | true => exact Int.neg_inj.trans Int.natCast_inj

/-- A field gives the exact quotient exactly when it is kept. -/
theorem ofInt_readQuotient_iff {text : String} {negative : Bool} {n divisor : Nat} :
    NumberType.long.ofInt text (Binary.signed negative (readQuotient n divisor)) =
        exactQuotient text (Binary.signed negative n) divisor ↔
      KeepsQuotient negative n divisor := by
  rw [exactQuotient_eq_ofInt, tdiv_signed, ofInt_eq_ofInt_iff, signed_inj]
  rfl

section

variable {negative : Bool} {n divisor : Nat}

/-- Quotients of numbers with 53 bits, quotients that leave nothing over of numbers with 63, and those of
numbers that are far too large are kept. -/
theorem keepsQuotient_of (hDivisor : divisor ∈ NumberFormat.divisors)
    (h : n < 2 ^ 53 ∨ n ≤ 9223372036854775807 ∧ divisor ∣ n ∨ 2 ^ 74 ≤ n) :
    KeepsQuotient negative n divisor := by
  have hBounds : 0 < divisor ∧ divisor ≤ 1000 := by
    have hAll : ∀ d ∈ NumberFormat.divisors, 0 < d ∧ d ≤ 1000 := by decide
    exact hAll divisor hDivisor
  rcases h with hSmall | ⟨hFits, hDivides⟩ | hLarge
  · left
    unfold readQuotient
    split
    · rfl
    · rw [doubleQuotient, roundedWhole_one_of_lt hSmall, roundedWhole_of_lt hSmall hBounds.1 (by omega)]
  · exact .inl (if_pos ⟨hFits, hDivides⟩)
  · right
    have hDouble : readQuotient n divisor = doubleQuotient n divisor := if_neg (by omega)
    have hRounded : 2 ^ 74 ≤ roundedWhole n 1 := two_pow_le_roundedWhole Nat.one_pos (by decide) (by omega)
    have hQuotient : 2 ^ 64 ≤ n / divisor := by
      rw [Nat.le_div_iff_mul_le hBounds.1]
      omega
    rw [hDouble]
    exact ⟨signed_two_pow_le (two_pow_le_doubleQuotient (by omega) (by omega)) negative,
      signed_two_pow_le hQuotient negative⟩

/-- Without a divisor, what is not kept are the numbers below the range that become its least double. -/
theorem keepsQuotient_one_iff :
    KeepsQuotient negative n 1 ↔ ¬(negative = true ∧ 2 ^ 63 < n ∧ n ≤ 2 ^ 63 + 1024) := by
  by_cases hFits : n ≤ 9223372036854775807
  · have hKeeps : KeepsQuotient negative n 1 := .inl (if_pos ⟨hFits, Nat.one_dvd n⟩)
    exact ⟨fun _ => by omega, fun _ => hKeeps⟩
  · have hDouble : readQuotient n 1 = doubleQuotient n 1 := if_neg fun h => hFits h.1
    rw [KeepsQuotient, hDouble, doubleQuotient, Nat.div_one]
    rcases Nat.lt_or_ge (2 ^ 63 + 1024) n with hFar | hNear
    · have hOnce := le_roundedWhole_one hFar
      have hTwice := le_roundedWhole_one (Nat.lt_of_lt_of_le (by decide) hOnce)
      have hNeither : ¬FitsLong (Binary.signed negative (roundedWhole (roundedWhole n 1) 1)) ∧
          ¬FitsLong (Binary.signed negative n) := by
        cases negative <;>
          simp only [FitsLong, Binary.signed, if_true, if_false, Bool.false_eq_true] <;> omega
      exact ⟨fun _ => by omega, fun _ => .inr hNeither⟩
    · rw [roundedWhole_one_of_le (by omega) hNear, roundedWhole_one_of_le (by omega) (by decide)]
      cases negative with
      | false =>
          have hNeither : ¬FitsLong (Binary.signed false (2 ^ 63)) ∧
              ¬FitsLong (Binary.signed false n) := by
            simp only [FitsLong, Binary.signed, if_false, Bool.false_eq_true]
            omega
          exact ⟨fun _ h => Bool.false_ne_true h.1, fun _ => .inr hNeither⟩
      | true =>
          simp only [FitsLong, Binary.signed, if_true, true_and]
          omega

end

/-! ## Texts of formats -/

namespace NumberFormat

/-- A text that shows a whole number in a format: digits between what stands around the numbers of its sign.
What stands behind them could not go on with the number, and what stands before the numbers of the other sign
is not at the start of the text as well, or is shorter; for positive numbers it may be as long. -/
structure Shows (format : NumberFormat) (negative : Bool) (digits : List Char) (text : String) :
    Prop where
  some : digits ≠ []
  isDigit : ∀ c ∈ digits, c.isDigit = true
  written : text.toList = (format.affixes negative).before ++ digits ++ (format.affixes negative).behind
  ends : ¬Extends format.grouping (format.affixes negative).behind
  sign : (format.affixes !negative).before <+: text.toList →
    if negative then (format.affixes false).before.length < (format.affixes true).before.length
    else (format.affixes true).before.length ≤ (format.affixes false).before.length

variable {format : NumberFormat} {negative : Bool} {digits : List Char} {text : String}

/-- A text that shows digits in a format is read as these digits. -/
theorem Shows.read (h : format.Shows negative digits text) :
    format.read text = .ok (Numeral.toAmount ⟨digits, none, none⟩ negative format.divisor) := by
  have hSign : format.takeSign text.toList =
      Option.some (negative, digits ++ ((format.affixes negative).behind ++ [])) := by
    rw [List.append_nil]
    exact takeSign_of_starts (by rw [h.written, List.append_assoc]) h.sign
  have hAmount := read?_written (Writes.refl h.some h.isDigit) hSign (by simpa using h.ends)
  rw [NumberFormat.read, hAmount]

end NumberFormat

/-- The sign of a number that is written without a format. -/
def signText (negative : Bool) : List Char :=
  if negative then ['-'] else []

/-- Without a format, digits are read as their number. -/
theorem ofPlain_digits {negative : Bool} {digits : List Char} {text : String} (hSome : digits ≠ [])
    (hDigits : ∀ c ∈ digits, c.isDigit = true) (hText : text.toList = signText negative ++ digits) :
    NumberType.long.ofPlain text =
      NumberType.long.ofInt text (Binary.signed negative (digitsValue digits)) := by
  have hRead : Bounds.int64.read text.toList =
      if FitsLong (Binary.signed negative (digitsValue digits)) then
        .ok (Binary.signed negative (digitsValue digits))
      else .error (if negative then .tooSmall else .tooLarge) := by
    rw [hText]
    cases negative with
    | false =>
        have hFits : digitsValue digits ≤ Bounds.int64.greatest ↔
            FitsLong (Binary.signed false (digitsValue digits)) := by
          simp only [FitsLong, Binary.signed, Bounds.int64, if_false, Bool.false_eq_true]
          omega
        exact (Bounds.read_digits hSome hDigits (by decide)).trans (if_congr hFits rfl rfl)
    | true =>
        have hFits : Bounds.int64.least ≤ -digitsValue digits ↔
            FitsLong (Binary.signed true (digitsValue digits)) := by
          simp only [FitsLong, Binary.signed, Bounds.int64, if_true]
          omega
        exact (Bounds.read_minus_digits hSome hDigits (by decide)).trans (if_congr hFits rfl rfl)
  have hPlain : NumberType.long.ofPlain text =
      NumberType.long.readWhole text >>= NumberType.long.ofInt text := rfl
  rw [hPlain, NumberType.readWhole, hRead]
  by_cases hFits : FitsLong (Binary.signed negative (digitsValue digits))
  · rw [if_pos hFits]
    rfl
  · rw [if_neg hFits, NumberType.ofInt_long_tooLarge hFits]
    cases negative <;> rfl

/-! ## Fields -/

/-- A converter of a field of 64 bits, with a pattern or without. -/
structure FieldConverter.ReadsLong (converter : FieldConverter) (field : FieldConfig)
    (pattern? : Option String) : Prop where
  type : field.dataType = .long
  format : field.properties.setting? Property.numberFormat = pattern?
  built : FieldConverter.ofConfig field = .ok converter

namespace FieldConverter

variable {converter : FieldConverter} {field : FieldConfig} {pattern : String} {format : NumberFormat}
  {negative : Bool} {digits : List Char} {input : String}

/-- A field with a format converts with it. -/
theorem ReadsLong.conversion_format (h : converter.ReadsLong field (some pattern))
    (hPattern : NumberFormat.ofPattern pattern = .ok format) :
    converter.conversion = .number .long (some format) := by
  obtain ⟨_, _, -, rfl⟩ :=
    @eq_of_ofConfig field converter .long _ h.type (mapM_ofPattern h.format hPattern) h.built
  rfl

/-- A field without a format converts by itself. -/
theorem ReadsLong.conversion_plain (h : converter.ReadsLong field none) :
    converter.conversion = .number .long none := by
  have hNone : (field.properties.setting? Property.numberFormat).mapM NumberFormat.ofPattern = .ok none := by
    rw [h.format]
    rfl
  obtain ⟨_, _, -, rfl⟩ := @eq_of_ofConfig field converter .long _ h.type hNone h.built
  rfl

/-- With a format, digits are read through a quotient of doubles. -/
theorem ReadsLong.readStrictly_shows (h : converter.ReadsLong field (some pattern))
    (hPattern : NumberFormat.ofPattern pattern = .ok format)
    (hShows : format.Shows negative digits (converter.given input)) :
    converter.readStrictly (some input) =
      NumberType.long.ofInt (converter.given input)
        (Binary.signed negative (readQuotient (digitsValue digits) format.divisor)) := by
  have hBounds : format.divisor ≠ 0 ∧ format.divisor < 2 ^ 53 := by
    have hAll : ∀ d ∈ NumberFormat.divisors, d ≠ 0 ∧ d < 2 ^ 53 := by decide
    exact hAll _ (NumberFormat.divisor_of_ofPattern hPattern)
  rw [readStrictly_format (h.conversion_format hPattern), hShows.read]
  exact ofAmount_digits _ hBounds.1 hBounds.2 negative

/-- Without a format, digits are read as their number. -/
theorem ReadsLong.readStrictly_plain (h : converter.ReadsLong field none) (hSome : digits ≠ [])
    (hDigits : ∀ c ∈ digits, c.isDigit = true)
    (hText : (converter.given input).toList = signText negative ++ digits) :
    converter.readStrictly (some input) =
      NumberType.long.ofInt (converter.given input) (Binary.signed negative (digitsValue digits)) := by
  rw [← ofPlain_digits hSome hDigits hText]
  simp only [readStrictly, h.conversion_plain, Conversion.convert, given]

end FieldConverter

namespace NumberFormat

/-- The format that consists of a single placeholder. -/
theorem ofPattern_zero : ofPattern "0" = .ok (between [] [] false) :=
  rfl

theorem shows_zero {negative : Bool} {digits : List Char} {text : String} (hSome : digits ≠ [])
    (hDigits : ∀ c ∈ digits, c.isDigit = true) (hText : text.toList = signText negative ++ digits) :
    (between [] [] false).Shows negative digits text where
  some := hSome
  isDigit := hDigits
  written := by
    rw [hText]
    cases negative <;> simp [signText, affixes, between]
  ends := by
    intro h
    cases negative <;> cases h
  sign := by
    rw [hText]
    cases negative with
    | false =>
        obtain ⟨first, rest, rfl⟩ := List.exists_cons_of_ne_nil hSome
        intro h
        have hMinus : '-' = first := (List.cons_prefix_cons.mp h).1
        cases hMinus ▸ hDigits first List.mem_cons_self
    | true => exact fun _ => Nat.one_pos

/-- A field of 64 bits with a format reads the exact quotient of a number by the divisor of the format, or
takes it for out of range, exactly as long as doubles keep that quotient. They do for numbers below 2^53, for
numbers of 64 bits that the divisor divides, and for all from 2^74 on; and without a divisor for all numbers
but those below the least of 64 bits that become that one as doubles. These are also the only ones on which
the format of a single placeholder and a field without a format disagree. -/
theorem readsQuotient_iff {pattern : String} {format : NumberFormat} {field : FieldConfig}
    {converter : FieldConverter} (h : converter.ReadsLong field (some pattern))
    (hPattern : ofPattern pattern = .ok format) :
    (∀ negative digits input, format.Shows negative digits (converter.given input) →
      (converter.readStrictly (some input) =
          exactQuotient (converter.given input) (Binary.signed negative (digitsValue digits))
            format.divisor ↔
        KeepsQuotient negative (digitsValue digits) format.divisor) ∧
      (KeepsQuotient negative (digitsValue digits) format.divisor →
        converter.read (some input) =
          converter.orDefault (exactQuotient (converter.given input)
            (Binary.signed negative (digitsValue digits)) format.divisor))) ∧
    (∀ negative n, n < 2 ^ 53 ∨ n ≤ 9223372036854775807 ∧ format.divisor ∣ n ∨ 2 ^ 74 ≤ n →
      KeepsQuotient negative n format.divisor) ∧
    (format.divisor = 1 → ∀ negative n, KeepsQuotient negative n format.divisor ↔
      ¬(negative = true ∧ 2 ^ 63 < n ∧ n ≤ 2 ^ 63 + 1024)) ∧
    (pattern = "0" → ∀ plainField plain, FieldConverter.ReadsLong plain plainField none →
      ∀ negative digits input, digits ≠ [] → (∀ c ∈ digits, c.isDigit = true) →
        (plain.given input).toList = signText negative ++ digits →
        converter.given input = plain.given input →
          (converter.readStrictly (some input) = plain.readStrictly (some input) ↔
            ¬(negative = true ∧ 2 ^ 63 < digitsValue digits ∧
              digitsValue digits ≤ 2 ^ 63 + 1024))) := by
  refine ⟨?_, fun _ _ => keepsQuotient_of (divisor_of_ofPattern hPattern), ?_, ?_⟩
  · intro negative digits input hShows
    have hRead := h.readStrictly_shows hPattern hShows
    have hIff : converter.readStrictly (some input) =
        exactQuotient (converter.given input) (Binary.signed negative (digitsValue digits))
          format.divisor ↔ KeepsQuotient negative (digitsValue digits) format.divisor := by
      rw [hRead]
      exact ofInt_readQuotient_iff
    refine ⟨hIff, fun hKeeps => ?_⟩
    rw [FieldConverter.read_number (h.conversion_format hPattern), hIff.mpr hKeeps]
  · intro hDivisor negative n
    rw [hDivisor]
    exact keepsQuotient_one_iff
  · rintro rfl plainField plain hPlain negative digits input hSome hDigits hText hGiven
    have hShows : (between [] [] false).Shows negative digits (converter.given input) :=
      shows_zero hSome hDigits (hGiven ▸ hText)
    rw [h.readStrictly_shows ofPattern_zero hShows, hPlain.readStrictly_plain hSome hDigits hText,
      hGiven, ← keepsQuotient_one_iff, KeepsQuotient, ofInt_eq_ofInt_iff, signed_inj, Nat.div_one]
    rfl

/-- The converter of a field of 64 bits with nothing but a format, or not even that. -/
def longConverter (format? : Option NumberFormat) : FieldConverter where
  name := "weight"
  narrowing := none
  conversion := .number .long format?
  default := none

/-- Percentages with commas, and with parentheses around negative ones. -/
def percentages : NumberFormat where
  positive := { behind := ['%'] }
  negative := { before := ['('], behind := ['%', ')'] }
  divisor := 100
  grouping := true

theorem ofPattern_percentages : ofPattern "#,##0%;(#%)" = .ok percentages :=
  rfl

theorem readsLong_percentages :
    (longConverter (some percentages)).ReadsLong (formattedField .long "#,##0%;(#%)")
      (some "#,##0%;(#%)") :=
  ⟨rfl, rfl, rfl⟩

theorem readsLong_zero :
    (longConverter (some (between [] [] false))).ReadsLong (formattedField .long "0") (some "0") :=
  ⟨rfl, rfl, rfl⟩

theorem readsLong_plain :
    (longConverter none).ReadsLong { name := "weight", dataType := .long } none :=
  ⟨rfl, rfl, rfl⟩

theorem readsQuotient_percentages :
    (longConverter (some percentages)).read (some " (1234567%)") = .ok (.long (-12345)) ∧
    (longConverter (some (between [] [] false))).readStrictly (some "-9223372036854775808") =
      (longConverter none).readStrictly (some "-9223372036854775808") := by
  constructor
  · obtain ⟨hExact, hKeeps, -, -⟩ := readsQuotient_iff readsLong_percentages ofPattern_percentages
    have hEnds : ¬Extends true ['%', ')'] := by
      intro h
      cases h with
      | digit h => cases h
    have hShows : percentages.Shows true "1234567".toList
        ((longConverter (some percentages)).given " (1234567%)") :=
      ⟨by decide, List.all_eq_true.mp (by decide), by decide +kernel, hEnds, fun _ => Nat.one_pos⟩
    exact ((hExact _ _ _ hShows).2 (hKeeps _ _ (.inl (by decide)))).trans rfl
  · obtain ⟨-, -, -, hPlain⟩ := readsQuotient_iff readsLong_zero ofPattern_zero
    exact (hPlain rfl _ _ readsLong_plain true "9223372036854775808".toList _ (by decide)
      (List.all_eq_true.mp (by decide)) (by decide +kernel) rfl).mpr (by decide)

/-- The number before the least one of 64 bits is taken for that one, where it is out of range. -/
theorem not_exactQuotient_below_least :
    ofPattern "0" = .ok (between [] [] false) ∧
    (between [] [] false).Shows true "9223372036854775809".toList
      ((longConverter (some (between [] [] false))).given "-9223372036854775809") ∧
    (longConverter (some (between [] [] false))).read (some "-9223372036854775809") =
      .ok (.long (-9223372036854775808)) ∧
    exactQuotient "-9223372036854775809" (-9223372036854775809) 1 =
      .error (.numberOutOfRange "-9223372036854775809" "long") ∧
    (longConverter none).read (some "-9223372036854775809") =
      .error (.numberOutOfRange "-9223372036854775809" "long") := by
  have hText : "-9223372036854775809".toList = signText true ++ "9223372036854775809".toList := by
    decide +kernel
  have hDigits : ∀ c ∈ "9223372036854775809".toList, c.isDigit = true :=
    List.all_eq_true.mp (by decide)
  have hShows : (between [] [] false).Shows true "9223372036854775809".toList
      ((longConverter (some (between [] [] false))).given "-9223372036854775809") :=
    shows_zero (by decide) hDigits hText
  have hRead := readsLong_zero.readStrictly_shows ofPattern_zero hShows
  have hDouble : readQuotient (digitsValue "9223372036854775809".toList) (between [] [] false).divisor =
      9223372036854775808 := by
    decide +kernel
  have hPlain := @FieldConverter.ReadsLong.readStrictly_plain _ _ true _ "-9223372036854775809"
    readsLong_plain (by decide) hDigits hText
  refine ⟨ofPattern_zero, hShows, hRead.trans ?_, rfl, hPlain.trans ?_⟩
  · rw [hDouble]
    rfl
  · rfl

end NumberFormat
end LogIngest

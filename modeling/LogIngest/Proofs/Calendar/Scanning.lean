import LogIngest.Calendar.DateTime
import LogIngest.Calendar.Scan
import LogIngest.Proofs.Decimal.Numeral
import LogIngest.Proofs.Fallible
import Mathlib.Data.List.TakeWhile

/-!
Numbers of dates and times. Main statements: an item takes just the numbers that are written with no more
digits than it allows, or with a sign where it may have one, and white space may stand before them; among these
are all numbers that are written with as many digits as the item takes, and years in all their forms.
-/

namespace LogIngest

theorem Text.isBlankChar_of_isDigit {c : Char} (h : c.isDigit = true) : isBlankChar c = false := by
  have hCode := toNat_of_isDigit h
  simp only [isBlankChar, Bool.or_eq_false_iff, Bool.and_eq_false_iff,
    decide_eq_false_iff_not, beq_eq_false_iff_ne]
  omega

theorem Text.trimStart_append {blank : List Char} (h : isBlank blank = true) (text : List Char) :
    trimStart (blank ++ text) = trimStart text :=
  List.dropWhile_append_of_pos (List.all_eq_true.mp h)

theorem Text.trimStart_of_digits {digits : List Char} (h : ∀ c ∈ digits, c.isDigit = true) :
    trimStart digits = digits := by
  cases digits with
  | nil => rfl
  | cons c rest => exact trimStart_cons (isBlankChar_of_isDigit (h c List.mem_cons_self)) rest

namespace Calendar

variable {numeric : Numeric} {width n : Nat} {text rest written : List Char} {value : Int}

theorem takeNumber_digits {least : Nat} {most : Option Nat} {digits : List Char}
    (hDigits : ∀ c ∈ digits, c.isDigit = true) (hRest : ∀ c ∈ rest.head?, c.isDigit = false)
    (hLeast : least ≤ digits.length) (hMost : ∀ bound ∈ most, digits.length ≤ bound)
    (hValue : (digitsValue digits : Int) ≤ Bounds.int64.greatest) :
    takeNumber least most (digits ++ rest) = .ok (digitsValue digits, rest) := by
  have hRun := takeWhile_digits hDigits hRest
  have hNotLess := Nat.not_lt.mpr hLeast
  have hNotMore := Int.not_lt.mpr hValue
  cases most with
  | none => simp [takeNumber, hRun, hNotLess, hNotMore]
  | some bound =>
      have hTaken : digits.take bound = digits := List.take_of_length_le (hMost bound rfl)
      simp [takeNumber, hRun, hTaken, hNotLess, hNotMore]

/-- What is taken as a number is a run of digits at the start of the text. -/
theorem exists_digits_of_takeNumber {least : Nat} {most : Option Nat}
    (h : takeNumber least most text = .ok (n, rest)) :
    ∃ digits, text = digits ++ rest ∧ (∀ c ∈ digits, c.isDigit = true) ∧ least ≤ digits.length ∧
      (∀ bound ∈ most, digits.length ≤ bound) ∧ n = digitsValue digits := by
  unfold takeNumber at h
  extract_lets run digits at h
  have hPrefix : digits <+: text ∧ (∀ c ∈ digits, c.isDigit = true) ∧
      ∀ bound ∈ most, digits.length ≤ bound := by
    cases most with
    | none => exact ⟨List.takeWhile_prefix _, fun c hc => List.mem_takeWhile_imp hc, nofun⟩
    | some bound =>
        refine ⟨(List.take_prefix bound run).trans (List.takeWhile_prefix _),
          fun c hc => List.mem_takeWhile_imp (List.mem_of_mem_take hc), ?_⟩
        rintro _ ⟨⟩
        exact List.length_take_le bound run
  obtain ⟨hText, hDigits, hMost⟩ := hPrefix
  split at h
  · cases h
  · next hLeast =>
      split at h
      · cases h
      · obtain ⟨rfl, rfl⟩ := Prod.mk.inj (Except.ok.inj h)
        exact ⟨digits, (List.prefix_iff_eq_append.mp hText).symm, hDigits, Nat.not_lt.mp hLeast, hMost, rfl⟩

namespace Numeric

/-- The ways to write a number for an item: digits, as many as the item allows, or, where the item may have a
sign, a sign and any number of digits. White space may stand before them. -/
inductive Writes (numeric : Numeric) : (written : List Char) → Int → Prop where
  | unsigned {blank digits : List Char} (hBlank : Text.isBlank blank = true) (hSome : digits ≠ [])
      (hDigits : ∀ c ∈ digits, c.isDigit = true)
      (hWidth : ∀ bound ∈ numeric.width?, digits.length ≤ bound) :
      Writes numeric (blank ++ digits) (digitsValue digits)
  | positive {blank digits : List Char} (hSigned : numeric.isSigned = true)
      (hBlank : Text.isBlank blank = true) (hSome : digits ≠ [])
      (hDigits : ∀ c ∈ digits, c.isDigit = true) :
      Writes numeric (blank ++ '+' :: digits) (digitsValue digits)
  | negative {blank digits : List Char} (hSigned : numeric.isSigned = true)
      (hBlank : Text.isBlank blank = true) (hSome : digits ≠ [])
      (hDigits : ∀ c ∈ digits, c.isDigit = true) :
      Writes numeric (blank ++ '-' :: digits) (-digitsValue digits)

/-- A number that is written for an item is taken, if 64 bits can hold it. -/
theorem take_written (h : numeric.Writes written value) (hRest : ∀ c ∈ rest.head?, c.isDigit = false)
    (hValue : (value.natAbs : Int) ≤ Bounds.int64.greatest) :
    numeric.take (written ++ rest) = .ok (value, rest) := by
  cases h with
  | @unsigned blank digits hBlank hSome hDigits hWidth =>
      have hTaken := takeNumber_digits hDigits hRest (List.length_pos_of_ne_nil hSome) hWidth hValue
      obtain ⟨c, digits, rfl⟩ := List.exists_cons_of_ne_nil hSome
      have hDigit := hDigits c List.mem_cons_self
      have hMinus : c ≠ '-' := by rintro rfl; cases hDigit
      have hPlus : c ≠ '+' := by rintro rfl; cases hDigit
      have hFirst := Text.isBlankChar_of_isDigit hDigit
      rw [List.cons_append] at hTaken
      simp [take, Text.trimStart_append hBlank, Text.trimStart_cons hFirst, hMinus, hPlus, hTaken,
        Except.map]
  | @positive blank digits hSigned hBlank hSome hDigits =>
      have hTaken : takeNumber 1 none (digits ++ rest) = .ok (digitsValue digits, rest) :=
        takeNumber_digits hDigits hRest (List.length_pos_of_ne_nil hSome) (by simp) hValue
      simp [take, Text.trimStart_append hBlank, Text.trimStart_cons, Text.isBlankChar, hSigned, hTaken,
        Except.map]
  | @negative blank digits hSigned hBlank hSome hDigits =>
      have hAbs : (digitsValue digits : Int) ≤ Bounds.int64.greatest := by rwa [Int.natAbs_neg] at hValue
      have hTaken : takeNumber 1 none (digits ++ rest) = .ok (digitsValue digits, rest) :=
        takeNumber_digits hDigits hRest (List.length_pos_of_ne_nil hSome) (by simp) hAbs
      simp [take, Text.trimStart_append hBlank, Text.trimStart_cons, Text.isBlankChar, hSigned, hTaken,
        Except.map]

/-- Nothing else is taken. -/
theorem exists_written_of_take (h : numeric.take text = .ok (value, rest)) :
    ∃ written, text = written ++ rest ∧ numeric.Writes written value := by
  have hBlank : Text.isBlank (text.takeWhile Text.isBlankChar) = true :=
    List.all_eq_true.mpr fun c hc => List.mem_takeWhile_imp hc
  have hText : text = text.takeWhile Text.isBlankChar ++ Text.trimStart text :=
    List.takeWhile_append_dropWhile.symm
  generalize text.takeWhile Text.isBlankChar = blank at hBlank hText
  unfold take at h
  dsimp only at h
  split at h
  · next behind hMinus =>
      split at h
      · next hSigned =>
          obtain ⟨⟨n, after⟩, hTaken, hSame⟩ := map_eq_ok h
          obtain ⟨rfl, rfl⟩ := Prod.mk.inj hSame
          obtain ⟨digits, rfl, hDigits, hLeast, -, rfl⟩ := exists_digits_of_takeNumber hTaken
          refine ⟨blank ++ '-' :: digits, hText.trans (by simp [hMinus]), ?_⟩
          exact .negative hSigned hBlank (List.ne_nil_of_length_pos hLeast) hDigits
      · cases h
  · next behind hPlus =>
      split at h
      · next hSigned =>
          obtain ⟨⟨n, after⟩, hTaken, hSame⟩ := map_eq_ok h
          obtain ⟨rfl, rfl⟩ := Prod.mk.inj hSame
          obtain ⟨digits, rfl, hDigits, hLeast, -, rfl⟩ := exists_digits_of_takeNumber hTaken
          refine ⟨blank ++ '+' :: digits, hText.trans (by simp [hPlus]), ?_⟩
          exact .positive hSigned hBlank (List.ne_nil_of_length_pos hLeast) hDigits
      · cases h
  · obtain ⟨⟨n, after⟩, hTaken, hSame⟩ := map_eq_ok h
    obtain ⟨rfl, rfl⟩ := Prod.mk.inj hSame
    obtain ⟨digits, hDigitsText, hDigits, hLeast, hWidth, rfl⟩ := exists_digits_of_takeNumber hTaken
    refine ⟨blank ++ digits, hText.trans (by simp [hDigitsText]), ?_⟩
    exact .unsigned hBlank (List.ne_nil_of_length_pos hLeast) hDigits hWidth

namespace Writes

variable {other behind : List Char} {c : Char}

theorem isNumeral (h : numeric.Writes written value) : IsNumeral (Text.trimStart written) value := by
  cases h with
  | unsigned hBlank hSome hDigits =>
      rw [Text.trimStart_append hBlank, Text.trimStart_of_digits hDigits]
      exact .unsigned hSome hDigits
  | positive _ hBlank hSome hDigits =>
      rw [Text.trimStart_append hBlank, Text.trimStart_cons rfl]
      exact .positive hSome hDigits
  | negative _ hBlank hSome hDigits =>
      rw [Text.trimStart_append hBlank, Text.trimStart_cons rfl]
      exact .negative hSome hDigits

theorem eq_of_digits (h : numeric.Writes written value) (hDigits : ∀ c ∈ written, c.isDigit = true) :
    value = digitsValue written :=
  (Text.trimStart_of_digits hDigits ▸ h.isNumeral).eq_of_digits hDigits

/-- Where one number ends in a text does not depend on how it is written. -/
theorem eq_of_append_eq (h : numeric.Writes written value) (hOther : numeric.Writes other value)
    (hValue : (value.natAbs : Int) ≤ Bounds.int64.greatest) (hLiteral : c.isDigit = false)
    (hText : written ++ c :: rest = other ++ c :: behind) : written = other ∧ rest = behind := by
  have hTake : numeric.take (written ++ c :: rest) = .ok (value, c :: rest) :=
    take_written h (by simpa using hLiteral) hValue
  have hTakeOther : numeric.take (other ++ c :: behind) = .ok (value, c :: behind) :=
    take_written hOther (by simpa using hLiteral) hValue
  rw [hText, hTakeOther] at hTake
  obtain ⟨-, hRest⟩ := Prod.mk.inj (Except.ok.inj hTake)
  obtain rfl := (List.cons.inj hRest).2
  exact ⟨List.append_cancel_right hText, rfl⟩

end Writes

/-- Digits alone need no sign, and no white space. -/
theorem writes_paddedText (hWidth : 0 < width) (hFits : n < 10 ^ width)
    (hMost : ∀ bound ∈ numeric.width?, width ≤ bound) : numeric.Writes (paddedText width n) n := by
  have hLength := length_paddedText hWidth hFits
  have hWrites : numeric.Writes ([] ++ paddedText width n) (digitsValue (paddedText width n)) :=
    .unsigned rfl (paddedText_ne_nil width n) (fun _ => isDigit_of_mem_paddedText) (hLength.symm ▸ hMost)
  rwa [digitsValue_paddedText] at hWrites

theorem writes_pair (hWidth : numeric.width? = some 2) (hFits : n < 100) :
    numeric.Writes (paddedText 2 n) n :=
  writes_paddedText (by decide) hFits (by simp [hWidth])

/-- A year outside of four digits has a sign, behind which it may have any number of digits. -/
theorem writes_yearText (value : Int) : Numeric.year.Writes (yearText value) value := by
  have hSome := paddedText_ne_nil 4 value.natAbs
  have hDigits : ∀ c ∈ paddedText 4 value.natAbs, c.isDigit = true := fun _ => isDigit_of_mem_paddedText
  unfold yearText
  split
  · next hPlain =>
      simp only [Bool.and_eq_true, decide_eq_true_eq] at hPlain
      have hWrites : Numeric.year.Writes (paddedText 4 value.natAbs) value.natAbs :=
        writes_paddedText (by decide) (by omega) (by simp [width?])
      rwa [Int.natAbs_of_nonneg hPlain.1] at hWrites
  · next hSigned =>
      simp only [Bool.and_eq_true, decide_eq_true_eq] at hSigned
      split
      · have hValue : -(digitsValue (paddedText 4 value.natAbs) : Int) = value := by
          rw [digitsValue_paddedText]
          omega
        have hWrites := @Writes.negative .year [] _ rfl rfl hSome hDigits
        rw [hValue] at hWrites
        exact hWrites
      · have hValue : (digitsValue (paddedText 4 value.natAbs) : Int) = value := by
          rw [digitsValue_paddedText]
          omega
        have hWrites := @Writes.positive .year [] _ rfl rfl hSome hDigits
        rw [hValue] at hWrites
        exact hWrites

theorem take_paddedText (hWidth : 0 < width) (hFits : n < 10 ^ width)
    (hRest : ∀ c ∈ rest.head?, c.isDigit = false) (hMost : ∀ bound ∈ numeric.width?, width ≤ bound)
    (hValue : (n : Int) ≤ Bounds.int64.greatest) :
    numeric.take (paddedText width n ++ rest) = .ok (n, rest) :=
  take_written (writes_paddedText hWidth hFits hMost) hRest hValue

theorem take_yearText {year : Int} (hYear : minYear ≤ year ∧ year ≤ maxYear)
    (hRest : ∀ c ∈ rest.head?, c.isDigit = false) :
    Numeric.year.take (yearText year ++ rest) = .ok (year, rest) := by
  apply take_written (writes_yearText year) hRest
  simp only [minYear, maxYear] at hYear
  simp only [Bounds.int64]
  omega

end Numeric

end Calendar
end LogIngest

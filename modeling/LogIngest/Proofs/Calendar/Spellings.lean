import LogIngest.Proofs.Calendar.Timestamps
import LogIngest.Proofs.Parser.SkipReasons

/-!
The spellings of timestamps. Main statement: a timestamp is read just if, without the white space around it, it
spells the numbers of a time; and it is written as times are written just if each of these numbers has all its
digits and nothing else. A number may lack digits or have white space before it, so times have other spellings.
-/

namespace LogIngest

namespace Calendar

variable {numeric : Numeric} {written : List Char} {value : Int}

/-! ### Numbers with all their digits -/

/-- Two digits and nothing else. -/
structure TwoDigits (written : List Char) : Prop where
  length : written.length = 2
  digits : ∀ c ∈ written, c.isDigit = true

/-- A year with all its digits: four of them, or, with a minus sign for a year below zero and with a plus sign
for one of more digits, as many as it has. -/
inductive FullYear : (written : List Char) → Prop where
  | unsigned {digits : List Char} (hDigits : ∀ c ∈ digits, c.isDigit = true)
      (hLength : digits.length = 4) : FullYear digits
  | negative {digits : List Char} (hDigits : ∀ c ∈ digits, c.isDigit = true)
      (hLength : 4 ≤ digits.length) (hHead : 4 < digits.length → digits.head? ≠ some '0')
      (hValue : 0 < digitsValue digits) : FullYear ('-' :: digits)
  | positive {digits : List Char} (hDigits : ∀ c ∈ digits, c.isDigit = true)
      (hLength : 4 < digits.length) (hHead : digits.head? ≠ some '0') : FullYear ('+' :: digits)

/-- Two digits are just those with which the number is written. -/
theorem twoDigits_iff {n : Nat} (h : numeric.Writes written n) (hFits : n < 100) :
    TwoDigits written ↔ written = paddedText 2 n := by
  constructor
  · rintro ⟨hLength, hDigits⟩
    obtain rfl : n = digitsValue written := by exact_mod_cast h.eq_of_digits hDigits
    exact (paddedText_of_digits (by decide) hDigits hLength.ge (by omega)).symm
  · rintro rfl
    exact ⟨length_paddedText (by decide) hFits, fun _ => isDigit_of_mem_paddedText⟩

/-! The forms of a year, by its size. -/

/-- A year of at most four digits is written with four. -/
theorem yearText_of_le {n : Nat} (h : n ≤ 9999) : yearText n = paddedText 4 n := by
  have hFour : (decide (0 ≤ (n : Int)) && decide ((n : Int) ≤ 9999)) = true := by
    simp
    omega
  rw [yearText, if_pos hFour, Int.natAbs_natCast]

/-- A later year has a plus sign. -/
theorem yearText_of_lt {n : Nat} (h : 9999 < n) : yearText n = '+' :: paddedText 4 n := by
  have hMore : ¬(decide (0 ≤ (n : Int)) && decide ((n : Int) ≤ 9999)) = true := by
    simp
    omega
  rw [yearText, if_neg hMore, if_neg (by omega), Int.natAbs_natCast]

/-- An earlier year has a minus sign. -/
theorem yearText_neg {n : Nat} (h : 0 < n) : yearText (-n) = '-' :: paddedText 4 n := by
  have hBelow : (-n : Int) < 0 := by omega
  have hSigned : ¬(decide (0 ≤ (-n : Int)) && decide ((-n : Int) ≤ 9999)) = true := by
    simp
    omega
  rw [yearText, if_neg hSigned, if_pos hBelow, Int.natAbs_neg, Int.natAbs_natCast]

/-- A year with all its digits is written as years are. -/
theorem FullYear.eq_yearText (h : FullYear written) (hWrites : Numeric.year.Writes written value) :
    written = yearText value := by
  have hNumeral := hWrites.isNumeral
  cases h with
  | unsigned hDigits hLength =>
      rw [Text.trimStart_of_digits hDigits] at hNumeral
      obtain rfl := hNumeral.eq_of_digits hDigits
      have hLess := digitsValue_lt hDigits
      rw [hLength] at hLess
      rw [yearText_of_le (by omega), paddedText_of_digits (by decide) hDigits hLength.ge (by omega)]
  | negative hDigits hLength hHead hValue =>
      rw [Text.trimStart_cons rfl] at hNumeral
      obtain rfl := hNumeral.eq_of_minus
      rw [yearText_neg hValue, paddedText_of_digits (by decide) hDigits hLength hHead]
  | @positive digits hDigits hLength hHead =>
      rw [Text.trimStart_cons rfl] at hNumeral
      obtain rfl := hNumeral.eq_of_plus
      have hLarge : 9999 < digitsValue digits := by
        obtain ⟨-, hText⟩ := natText_digitsValue (List.ne_nil_of_length_pos (by omega)) hDigits hHead
        by_contra hSmall
        have hShort : (natText (digitsValue digits)).length ≤ 4 :=
          length_natText_le (by decide) (by omega)
        rw [hText] at hShort
        omega
      rw [yearText_of_lt hLarge, paddedText_of_digits (by decide) hDigits hLength.le fun _ => hHead]

/-- A written year has all its digits. -/
theorem fullYear_yearText (year : Int) : FullYear (yearText year) := by
  have hDigits (n : Nat) : ∀ c ∈ paddedText 4 n, c.isDigit = true := fun _ => isDigit_of_mem_paddedText
  obtain ⟨n, rfl | rfl⟩ := Int.eq_nat_or_neg year
  · by_cases hFour : n ≤ 9999
    · rw [yearText_of_le hFour]
      exact .unsigned (hDigits n) (length_paddedText (by decide) (by omega))
    · have hLonger : 4 < (paddedText 4 n).length := by
        have hLess := digitsValue_lt (hDigits n)
        rw [digitsValue_paddedText] at hLess
        by_contra hShort
        have hPower : 10 ^ (paddedText 4 n).length ≤ 10 ^ 4 := Nat.pow_le_pow_right (by decide) (by omega)
        omega
      rw [yearText_of_lt (by omega)]
      exact .positive (hDigits n) hLonger (head?_paddedText (by omega) hLonger)
  · rcases Nat.eq_zero_or_pos n with rfl | hPositive
    · exact .unsigned (hDigits 0) (length_paddedText (by decide) (by decide))
    · rw [yearText_neg hPositive]
      exact .negative (hDigits n) (le_length_paddedText 4 n) (head?_paddedText hPositive)
        (by rwa [digitsValue_paddedText])

/-- Among the ways to write a year the one in full is the one in which it is written. -/
theorem fullYear_iff (h : Numeric.year.Writes written value) : FullYear written ↔ written = yearText value := by
  constructor
  · exact fun hFull => hFull.eq_yearText h
  · rintro rfl
    exact fullYear_yearText value

/-! ### Timestamps with all their digits -/

namespace Timestamp

namespace Spelling

/-- Each number has all its digits, and there is nothing else before or behind it. -/
structure Full (s : Spelling) : Prop where
  year : FullYear s.year
  month : TwoDigits s.month
  day : TwoDigits s.day
  hour : TwoDigits s.hour
  minute : TwoDigits s.minute
  second : TwoDigits s.second

variable {s t : Spelling} {moment : DateTime}

/-- A spelling has all digits exactly if it is that of the moment. -/
theorem full_iff (h : s.Tells moment) : s.Full ↔ s = ofMoment moment := by
  have hMonth := moment.date.month_mem_range
  have hDay := moment.date.day_mem_range
  have hHour := moment.clock.hour_lt
  have hMinute := moment.clock.minute_mem_range
  have hSecond := moment.clock.second_mem_range
  have hMillis : s.millis = paddedText 3 (moment.clock.shownNano / 1000000) := by
    have hNano := h.nano
    have hValue : moment.clock.shownNano / 1000000 = digitsValue s.millis := by omega
    rw [hValue, paddedText_of_digits (by decide) h.digits_millis h.length_millis.ge
      (by simp [h.length_millis])]
  rw [Spelling.ext_iff]
  constructor
  · intro hFull
    exact ⟨(fullYear_iff h.year).mp hFull.year, (twoDigits_iff h.month (by omega)).mp hFull.month,
      (twoDigits_iff h.day (by omega)).mp hFull.day, (twoDigits_iff h.hour (by omega)).mp hFull.hour,
      (twoDigits_iff h.minute (by omega)).mp hFull.minute,
      (twoDigits_iff h.second (by omega)).mp hFull.second, hMillis⟩
  · rintro ⟨hYearText, hMonthText, hDayText, hHourText, hMinuteText, hSecondText, -⟩
    exact ⟨(fullYear_iff h.year).mpr hYearText, (twoDigits_iff h.month (by omega)).mpr hMonthText,
      (twoDigits_iff h.day (by omega)).mpr hDayText, (twoDigits_iff h.hour (by omega)).mpr hHourText,
      (twoDigits_iff h.minute (by omega)).mpr hMinuteText,
      (twoDigits_iff h.second (by omega)).mpr hSecondText⟩

/-- No text spells a time in two ways. -/
theorem eq_of_text_eq (h : s.Tells moment) (ht : t.Tells moment) (hText : s.text = t.text) : s = t := by
  have hYear := moment.date.year_mem_range
  have hMonth := moment.date.month_mem_range
  have hDay := moment.date.day_mem_range
  have hHour := moment.clock.hour_lt
  have hMinute := moment.clock.minute_mem_range
  have hSecond := moment.clock.second_mem_range
  simp only [Part.range] at hYear
  have hBound : Bounds.int64.greatest = 9223372036854775807 := rfl
  obtain ⟨hYearText, hText⟩ := h.year.eq_of_append_eq ht.year (by omega) rfl hText
  obtain ⟨hMonthText, hText⟩ := h.month.eq_of_append_eq ht.month (by omega) rfl hText
  obtain ⟨hDayText, hText⟩ := h.day.eq_of_append_eq ht.day (by omega) rfl hText
  obtain ⟨hHourText, hText⟩ := h.hour.eq_of_append_eq ht.hour (by omega) rfl hText
  obtain ⟨hMinuteText, hText⟩ := h.minute.eq_of_append_eq ht.minute (by omega) rfl hText
  obtain ⟨hSecondText, hText⟩ := h.second.eq_of_append_eq ht.second (by omega) rfl hText
  exact Spelling.ext hYearText hMonthText hDayText hHourText hMinuteText hSecondText
    (List.append_cancel_right hText)

/-- Only then is it what is written of the moment. -/
theorem text_eq_write_iff (h : s.Tells moment) : s.text = (write moment).toList ↔ s.Full := by
  rw [full_iff h, ← text_ofMoment]
  exact ⟨eq_of_text_eq h (tells_ofMoment h.millis), congrArg text⟩

end Spelling

/-- A text is read as a moment exactly if it spells the moment. -/
theorem read?_eq_some_iff {text : List Char} {moment : DateTime} :
    read? text = some moment ↔ ∃ s : Spelling, s.text = Text.trim text ∧ s.Tells moment := by
  constructor
  · exact exists_spelling_of_read?
  · rintro ⟨s, hText, hTells⟩
    exact Spelling.read?_of_tells hText hTells

end Timestamp
end Calendar

open Calendar
open Calendar.Timestamp (Spelling)

/-- A malformed text is never blamed on the timestamp. -/
theorem ErrorPolicy.onJsonError_ne_invalidTimestamp (policy : ErrorPolicy) (draft : Draft)
    (message text : String) : policy.onJsonError draft message ≠ .error (.invalidTimestamp text) := by
  cases policy <;> simp [onJsonError]

/-- A filled entry is rejected for its timestamp exactly if that cannot be read. -/
theorem ParserCore.prepare_eq_invalidTimestamp_iff (core : ParserCore) {entry : RawEntry}
    (hFilled : entry.Filled) :
    core.prepare entry = .error (.invalidTimestamp entry.timestamp) ↔
      Timestamp.read? entry.timestamp.toList = none := by
  rw [prepare_eq, RawEntry.checked_of_filled hFilled]
  cases hRead : Timestamp.read? entry.timestamp.toList with
  | none => simp
  | some moment =>
      cases entry.given with
      | ok fields => simp
      | error reason =>
          simpa using core.policy.onJsonError_ne_invalidTimestamp { timestamp := moment } reason _

/-- A text is read as a timestamp just if it spells a time once the white space around it is gone, and it is then
the text with which that time is written just if it spells it in full. Times are spelled in full in one way each.
An entry with all its parts is rejected for its timestamp just if that spells no time. -/
theorem timestamp_spellings (text : String) :
    (∀ moment, Timestamp.read? text.toList = some moment ↔
        ∃ s : Spelling, s.text = Text.trim text.toList ∧ s.Tells moment) ∧
      (∀ (s : Spelling) moment, s.text = Text.trim text.toList → s.Tells moment →
        (trimmed text = Timestamp.write moment ↔ s.Full)) ∧
      (∀ (other : String) (s t : Spelling) moment, s.text = Text.trim text.toList →
        t.text = Text.trim other.toList → s.Tells moment → t.Tells moment → s.Full → t.Full →
          trimmed text = trimmed other) ∧
      ∀ (core : ParserCore) (entry : RawEntry), entry.timestamp = text → entry.Filled →
        (core.prepare entry = .error (.invalidTimestamp text) ↔
          ∀ (s : Spelling) moment, s.text = Text.trim text.toList → ¬s.Tells moment) := by
  refine ⟨fun moment => Timestamp.read?_eq_some_iff, ?_, ?_, ?_⟩
  · intro s moment hText hTells
    rw [← s.text_eq_write_iff hTells, hText, trimmed, ← String.toList_inj, String.toList_ofList]
  · intro other s t moment hText hOther hTells hOtherTells hFull hOtherFull
    rw [trimmed, trimmed, ← hText, ← hOther, (s.full_iff hTells).mp hFull,
      (t.full_iff hOtherTells).mp hOtherFull]
  · rintro core entry rfl hFilled
    rw [core.prepare_eq_invalidTimestamp_iff hFilled, Option.eq_none_iff_forall_ne_some]
    simp only [ne_eq, Timestamp.read?_eq_some_iff, not_exists, not_and]
    exact forall_comm

/-- An entry with a timestamp that has no milliseconds. -/
def RawEntry.wholeSecond : RawEntry where
  timestamp := "2024-01-05T10:30:00Z"
  source := "proxy"
  host := "web-1"
  severity := "info"
  message := "GET /"

/-- A month and a day without their zeros spell a time, but not in full. Without milliseconds nothing does. -/
theorem timestamp_spellings_unpadded :
    (∃ (s t : Spelling) (moment : DateTime),
      s.text = Text.trim "2024-1-5T10:30:00.000Z".toList ∧ s.Tells moment ∧ ¬s.Full ∧
        t.text = Text.trim " 2024-01-05T10:30:00.000Z ".toList ∧ t.Tells moment ∧ t.Full) ∧
      ∃ built, Strategy.delimited.build (.named "web") .statusFirst Keywords.words = .ok built ∧
        built.core.prepare .wholeSecond = .error (.invalidTimestamp "2024-01-05T10:30:00Z") := by
  have hWritten : (Timestamp.read? "2024-1-5T10:30:00.000Z".toList).map Timestamp.write =
      some "2024-01-05T10:30:00.000Z" := by
    decide +kernel
  have hSame : Timestamp.read? " 2024-01-05T10:30:00.000Z ".toList =
      Timestamp.read? "2024-1-5T10:30:00.000Z".toList := by
    decide +kernel
  have hNone : Timestamp.read? RawEntry.wholeSecond.timestamp.toList = none := by decide +kernel
  obtain ⟨moment, hRead, hText⟩ := Option.map_eq_some_iff.mp hWritten
  obtain ⟨hSpelled, hFull, -, -⟩ := timestamp_spellings "2024-1-5T10:30:00.000Z"
  obtain ⟨hPaddedSpelled, hPaddedFull, -, -⟩ := timestamp_spellings " 2024-01-05T10:30:00.000Z "
  obtain ⟨hNoneSpelled, -, -, hRejected⟩ := timestamp_spellings RawEntry.wholeSecond.timestamp
  refine ⟨?_, ?_⟩
  · obtain ⟨s, hs, hTells⟩ := (hSpelled moment).mp hRead
    obtain ⟨t, ht, hPaddedTells⟩ := (hPaddedSpelled moment).mp (hSame.trans hRead)
    refine ⟨s, t, moment, hs, hTells, ?_, ht, hPaddedTells, ?_⟩
    · rw [← hFull s moment hs hTells, hText]
      decide
    · rw [← hPaddedFull t moment ht hPaddedTells, hText]
      decide
  · obtain ⟨built, hBuild⟩ : ∃ built,
        Strategy.delimited.build (.named "web") .statusFirst Keywords.words = .ok built := ⟨_, rfl⟩
    have hFilled : RawEntry.wholeSecond.Filled := by
      intro argument
      cases argument <;> decide
    refine ⟨built, hBuild, (hRejected built.core .wholeSecond rfl hFilled).mpr ?_⟩
    intro s moment hs hTells
    cases hNone.symm.trans ((hNoneSpelled moment).mpr ⟨s, hs, hTells⟩)

/-- Not every timestamp that is read is the text with which its time is written, and two of them can be
timestamps of one time. -/
theorem timestamp_not_fixed_unpadded :
    ∃ moment, Timestamp.read? "2024-1-5T10:30:00.000Z".toList = some moment ∧
      Timestamp.read? "2024-01-05T10:30:00.000Z".toList = some moment ∧
      Timestamp.write moment = "2024-01-05T10:30:00.000Z" ∧
      trimmed "2024-1-5T10:30:00.000Z" ≠ Timestamp.write moment := by
  have hWritten : (Timestamp.read? "2024-1-5T10:30:00.000Z".toList).map Timestamp.write =
      some "2024-01-05T10:30:00.000Z" := by
    decide +kernel
  have hSame : Timestamp.read? "2024-01-05T10:30:00.000Z".toList =
      Timestamp.read? "2024-1-5T10:30:00.000Z".toList := by
    decide +kernel
  obtain ⟨moment, hRead, hText⟩ := Option.map_eq_some_iff.mp hWritten
  refine ⟨moment, hRead, hSame.trans hRead, hText, ?_⟩
  rw [hText]
  decide

end LogIngest

import LogIngest.Calendar.Timestamp
import LogIngest.Entry.Envelope
import LogIngest.Proofs.Calendar.Determination
import LogIngest.Proofs.Calendar.Scanning

/-!
Timestamps of entries, written and read. Main statements: a timestamp that is read spells the numbers of a
time, and every spelling of a time is read as that time; what is read from a timestamp is read again from the
text with which it is written, which is the same in entries and on lines.
-/

namespace LogIngest
namespace Calendar

namespace Components

/-- The components of a time, with the half of the day apart from the hour within it. -/
def ofMoment (moment : DateTime) : Components :=
  (((((((unknown.put .year moment.date.year).put .month moment.date.month).put .day
    moment.date.day).put .half (moment.clock.hour / 12)).put .hourOfHalf
    (moment.clock.hour % 12)).put .minute moment.clock.minute).put .second
    moment.clock.shownSecond).put .nano moment.clock.shownNano

/-- The parts of a moment determine its date. -/
theorem toDate_ofMoment (moment : DateTime) : (ofMoment moment).toDate = .ok moment.date := by
  have hDate : Date.of? moment.date.year moment.date.month moment.date.day = some moment.date :=
    dif_pos ⟨moment.date.year_mem, moment.date.month_mem, moment.date.day_mem⟩
  simp [toDate, ofMoment, get_put_of_ne, unknown, resolveYear, candidate, hDate, existing,
    fitsIsoWeek, fitsOrdinal, fits, bind, Except.bind, pure, Except.pure]

end Components

namespace Clock

/-- The second is shown as the sixtieth exactly in a leap second. -/
theorem shownSecond_eq_sixty_iff (clock : Clock) : clock.shownSecond = 60 ↔ 1000000000 ≤ clock.nano := by
  have hLeap := clock.leap_end
  unfold shownSecond isLeap
  by_cases h : 1000000000 ≤ clock.nano
  · simp [h, hLeap h]
  · simp only [h, decide_false, Bool.false_eq_true, if_false, iff_false]
    omega

/-- A time of day is that of its hour, its minute and the second that it shows. -/
theorem of?_shown (clock : Clock) :
    of? clock.hour clock.minute clock.shownSecond clock.shownNano = some clock := by
  have hLeap := clock.shownSecond_eq_sixty_iff
  have hSecond : clock.hour * 3600 + clock.minute * 60 +
      (if clock.shownSecond == 60 then 59 else clock.shownSecond) = clock.second := by
    have hEnd := clock.leap_end
    by_cases h : 1000000000 ≤ clock.nano
    · simp only [hour, minute, beq_iff_eq, hLeap, h, if_true]
      omega
    · have hShown : clock.shownSecond = clock.second % 60 := by simp [shownSecond, isLeap, h]
      rw [if_neg (by simp [hLeap, h]), hShown]
      simp only [hour, minute]
      omega
  have hNano : (if clock.shownSecond == 60 then 1000000000 + clock.shownNano else clock.shownNano) =
      clock.nano := by
    have hLt := clock.nano_lt
    simp only [beq_iff_eq, hLeap, shownNano]
    split <;> omega
  have hShown : clock.shownSecond ≤ 60 := by
    simp only [shownSecond]
    split <;> omega
  have hClock : (clock.hour < 24 ∧ clock.minute < 60 ∧ clock.shownSecond ≤ 60) ∧
      clock.second < 86400 ∧ clock.nano < 2000000000 ∧
        (1000000000 ≤ clock.nano → clock.second % 60 = 59) := by
    have hLt := clock.second_lt
    refine ⟨⟨?_, ?_, hShown⟩, hLt, clock.nano_lt, clock.leap_end⟩
    · unfold hour
      omega
    · unfold minute
      omega
  simp only [of?, hSecond, hNano, dif_pos hClock]

end Clock

/-- The parts of a moment determine its time of day, a leap second included. -/
theorem Components.toClock_ofMoment (moment : DateTime) :
    (ofMoment moment).toClock = .ok moment.clock := by
  have hHour : ((moment.clock.hour : Int) / 12 * 12 + (moment.clock.hour : Int) % 12).toNat =
      moment.clock.hour := by
    omega
  simp [toClock, ofMoment, get_put_of_ne, need, hHour, Clock.of?_shown, bind, Except.bind, pure,
    Except.pure]

/-- The parts of a moment determine the moment. -/
theorem Components.toDateTime_ofMoment (moment : DateTime) :
    (ofMoment moment).toDateTime = .ok moment := by
  have hStamp : (ofMoment moment).get .stamp = none := rfl
  simp only [toDateTime, toDate_ofMoment, toClock_ofMoment, hStamp]

namespace Item

variable {items : List Item} {numeric : Numeric} {components next : Components} {value : Int}
  {text rest : List Char}

/-- A number that can be taken and stored is passed over. -/
theorem takeAll_number (hTake : numeric.take text = .ok (value, rest))
    (hStore : numeric.store value components = .ok next) :
    takeAll (.number numeric :: items) ⟨components, text⟩ = takeAll items ⟨next, rest⟩ := by
  simp only [takeAll, List.foldlM_cons, take, hTake, hStore, bind, Except.bind, pure, Except.pure]

/-- A character that stands for itself is passed over. -/
theorem takeAll_literal (c : Char) :
    takeAll (.literal c :: items) ⟨components, c :: rest⟩ = takeAll items ⟨components, rest⟩ := by
  simp only [takeAll, List.foldlM_cons, take, beq_self_eq_true, if_true, bind, Except.bind]

/-- A number and a literal behind it. -/
theorem takeAll_written {written : List Char} {c : Char} (hWrites : numeric.Writes written value)
    (hValue : (value.natAbs : Int) ≤ Bounds.int64.greatest) (hLiteral : c.isDigit = false)
    (hStore : numeric.store value components = .ok next) :
    takeAll (.number numeric :: .literal c :: items) ⟨components, written ++ c :: rest⟩ =
      takeAll items ⟨next, rest⟩ := by
  rw [takeAll_number (Numeric.take_written hWrites (by simpa using hLiteral) hValue) hStore,
    takeAll_literal]

/-- Two digits and the character behind them are passed over in one step. -/
theorem takeAll_pair (numeric : Numeric) {n : Nat} {c : Char} (hWidth : numeric.width? = some 2) (hFits : n < 100)
    (hLiteral : c.isDigit = false) (hStore : numeric.store n components = .ok next) :
    takeAll (.number numeric :: .literal c :: items) ⟨components, paddedText 2 n ++ c :: rest⟩ =
      takeAll items ⟨next, rest⟩ :=
  takeAll_written (Numeric.writes_pair hWidth hFits) (by simp only [Bounds.int64]; omega) hLiteral hStore

/-- Places behind the point are stored as nanoseconds. -/
theorem takeAll_places {count n : Nat} (hTake : takeNumber count (some count) text = .ok (n, rest))
    (hSet : components.set .nano ((n * Nat.pow 10 (9 - count) : Nat) : Int) = .ok next) :
    takeAll (.places count :: items) ⟨components, text⟩ = takeAll items ⟨next, rest⟩ := by
  simp only [takeAll, List.foldlM_cons, take, advance, hTake, hSet, Except.map, bind, Except.bind, pure,
    Except.pure]

end Item

/-- No month has more than thirty-one days. -/
theorem daysInMonth_le (year : Int) (month : Nat) : daysInMonth year month ≤ 31 := by
  rw [daysInMonth, List.getD_eq_getElem?_getD]
  cases hLength : (monthLengths year)[month - 1]? with
  | none => exact Nat.zero_le 31
  | some length =>
      have hMem := List.mem_of_getElem? hLength
      simp only [monthLengths, List.mem_cons, List.not_mem_nil, or_false] at hMem
      rw [Option.getD_some]
      split at hMem <;> omega

theorem yearText_ne_nil (year : Int) : yearText year ≠ [] := by
  unfold yearText
  split
  · exact paddedText_ne_nil 4 _
  · exact List.cons_ne_nil _ _

theorem isBlankChar_of_head?_yearText {year : Int} {c : Char} (h : (yearText year).head? = some c) :
    Text.isBlankChar c = false := by
  unfold yearText at h
  split at h
  · exact Text.isBlankChar_of_isDigit (isDigit_of_mem_paddedText (List.mem_of_head? h))
  · rw [← Option.some.inj h]
    split <;> rfl

/-! The parts of a time lie within the ranges in which they are read. -/

/-- The years of the calendar are years that can be read. -/
theorem Date.year_mem_range (date : Date) : Part.year.range.1 ≤ date.year ∧ date.year ≤ Part.year.range.2 := by
  have hMem := date.year_mem
  simp only [minYear, maxYear] at hMem
  simp only [Part.range]
  omega

theorem Date.month_mem_range (date : Date) : 1 ≤ (date.month : Int) ∧ (date.month : Int) ≤ 12 := by
  have hMem := date.month_mem
  omega

theorem Date.day_mem_range (date : Date) : 1 ≤ (date.day : Int) ∧ (date.day : Int) ≤ 31 := by
  have hMem := date.day_mem
  have hLe := daysInMonth_le date.year date.month
  omega

theorem Clock.hour_lt (clock : Clock) : clock.hour < 24 := by
  have hLt := clock.second_lt
  unfold Clock.hour
  omega

theorem Clock.minute_mem_range (clock : Clock) : 0 ≤ (clock.minute : Int) ∧ (clock.minute : Int) ≤ 59 := by
  unfold Clock.minute
  omega

/-- A shown second may be the sixtieth, which is within the range of seconds. -/
theorem Clock.second_mem_range (clock : Clock) :
    0 ≤ (clock.shownSecond : Int) ∧ (clock.shownSecond : Int) ≤ 60 := by
  unfold Clock.shownSecond
  split <;> omega

theorem Clock.nano_mem_range (clock : Clock) :
    0 ≤ (clock.shownNano : Int) ∧ (clock.shownNano : Int) ≤ 999999999 := by
  unfold Clock.shownNano
  omega

namespace Timestamp

/-- On lines and in entries a timestamp is written alike. -/
theorem write_eq_millisText (instant : Instant) : write instant = instant.millisText := by
  simp [write, items, Item.write?, DateTime.millisText, DateTime.text, Date.text, Clock.text]

/-- The numbers of a timestamp, each as it is written. -/
@[ext] structure Spelling where
  year : List Char
  month : List Char
  day : List Char
  hour : List Char
  minute : List Char
  second : List Char
  millis : List Char

namespace Spelling

/-- The numbers with what has to stand between them. -/
def text (s : Spelling) : List Char :=
  s.year ++ '-' :: (s.month ++ '-' :: (s.day ++ 'T' :: (s.hour ++ ':' :: (s.minute ++
    ':' :: (s.second ++ '.' :: (s.millis ++ ['Z']))))))

/-- The numbers are those of a time; the milliseconds have three digits. -/
structure Tells (s : Spelling) (moment : DateTime) : Prop where
  year : Numeric.year.Writes s.year moment.date.year
  month : Numeric.month.Writes s.month moment.date.month
  day : Numeric.day.Writes s.day moment.date.day
  hour : Numeric.hour.Writes s.hour moment.clock.hour
  minute : Numeric.minute.Writes s.minute moment.clock.minute
  second : Numeric.second.Writes s.second moment.clock.shownSecond
  length_millis : s.millis.length = 3
  digits_millis : ∀ c ∈ s.millis, c.isDigit = true
  nano : digitsValue s.millis * 1000000 = moment.clock.shownNano

/-- The spelling in which times are written. -/
def ofMoment (moment : DateTime) : Spelling where
  year := yearText moment.date.year
  month := paddedText 2 moment.date.month
  day := paddedText 2 moment.date.day
  hour := paddedText 2 moment.clock.hour
  minute := paddedText 2 moment.clock.minute
  second := paddedText 2 moment.clock.shownSecond
  millis := paddedText 3 (moment.clock.shownNano / 1000000)

variable {s : Spelling} {moment : DateTime}

/-- A spelling has three places, so it tells whole milliseconds only. -/
theorem Tells.millis (h : s.Tells moment) : moment.clock.nano % 1000000 = 0 := by
  have hNano := h.nano
  unfold Clock.shownNano at hNano
  omega

/-- The spelling of a moment is the text with which it is written. -/
theorem text_ofMoment (moment : DateTime) : (ofMoment moment).text = (write moment).toList := by
  simp [write, items, Item.write?, text, ofMoment]

/-- The spelling of a moment tells it if nothing is lost below the milliseconds. -/
theorem tells_ofMoment (hMillis : moment.clock.nano % 1000000 = 0) : (ofMoment moment).Tells moment := by
  have hMonth := moment.date.month_mem_range
  have hDay := moment.date.day_mem_range
  have hHour := moment.clock.hour_lt
  have hMinute := moment.clock.minute_mem_range
  have hSecond := moment.clock.second_mem_range
  have hNano := moment.clock.nano_mem_range
  have hWhole : moment.clock.shownNano / 1000000 * 1000000 = moment.clock.shownNano := by
    unfold Clock.shownNano
    omega
  exact {
    year := Numeric.writes_yearText _
    month := Numeric.writes_pair rfl (by omega)
    day := Numeric.writes_pair rfl (by omega)
    hour := Numeric.writes_pair rfl (by omega)
    minute := Numeric.writes_pair rfl (by omega)
    second := Numeric.writes_pair rfl (by omega)
    length_millis := length_paddedText (by decide) (by omega)
    digits_millis := fun _ => isDigit_of_mem_paddedText
    nano := (congrArg (· * 1000000) (digitsValue_paddedText 3 _)).trans hWhole }

/-- Whichever way they are spelled, the numbers of a time are taken for it. -/
theorem scan_text (h : s.Tells moment) : Item.scan items s.text = .ok (.ofMoment moment) := by
  have hYear := moment.date.year_mem_range
  have hMonth := moment.date.month_mem_range
  have hDay := moment.date.day_mem_range
  have hHour := moment.clock.hour_lt
  have hMinute := moment.clock.minute_mem_range
  have hSecond := moment.clock.second_mem_range
  have hNano := moment.clock.nano_mem_range
  have hLength := h.length_millis
  have hBound : Bounds.int64.greatest = 9223372036854775807 := rfl
  have hMillis : takeNumber 3 (some 3) (s.millis ++ ['Z']) = .ok (digitsValue s.millis, ['Z']) := by
    have hValue := h.nano
    exact takeNumber_digits h.digits_millis (by simp) (by omega) (by simp [hLength]) (by omega)
  have hPlaces : digitsValue s.millis * Nat.pow 10 (9 - 3) = moment.clock.shownNano := h.nano
  simp only [Part.range] at hYear
  rw [text, Item.scan, items,
    Item.takeAll_written h.year (by omega) rfl (Components.set_of_unknown .year hYear rfl),
    Item.takeAll_written h.month (by omega) rfl (Components.set_of_unknown .month hMonth rfl),
    Item.takeAll_written h.day (by omega) rfl (Components.set_of_unknown .day hDay rfl),
    Item.takeAll_written h.hour (by omega) rfl (Components.setHour_of_unknown hHour rfl rfl),
    Item.takeAll_written h.minute (by omega) rfl (Components.set_of_unknown .minute hMinute rfl),
    Item.takeAll_written h.second (by omega) rfl (Components.set_of_unknown .second hSecond rfl),
    Item.takeAll_places hMillis (by rw [hPlaces]; exact Components.set_of_unknown .nano hNano rfl),
    Item.takeAll_literal]
  rfl

/-- A text is read as the moment that its spelling tells, with white space around it or without. -/
theorem read?_of_tells {text : List Char} (hText : s.text = Text.trim text) (h : s.Tells moment) :
    read? text = some moment := by
  rw [read?, ← hText, scan_text h]
  simp only [bind, Except.bind, Components.toDateTime_ofMoment]
  rfl

end Spelling

/-- What is written of whole milliseconds is read again. -/
theorem read?_write {moment : DateTime} (hMillis : moment.clock.nano % 1000000 = 0) :
    read? (write moment).toList = some moment := by
  have hTrim : Text.trim (write moment).toList = (write moment).toList := by
    have hYear : (Spelling.ofMoment moment).year ≠ [] := yearText_ne_nil _
    rw [← Spelling.text_ofMoment]
    apply Text.trim_of_ends
    · rw [Spelling.text, List.head?_append_of_ne_nil _ hYear]
      exact fun _ => isBlankChar_of_head?_yearText
    · simp [Spelling.text, List.getLast?_append, List.getLast?_cons, Text.isBlankChar]
  refine Spelling.read?_of_tells ?_ (Spelling.tells_ofMoment hMillis)
  rw [hTrim, Spelling.text_ofMoment]

end Timestamp

/-- The time of day without what is less than a millisecond. -/
def Clock.wholeMillis (clock : Clock) : Clock where
  second := clock.second
  nano := clock.nano / 1000000 * 1000000
  second_lt := clock.second_lt
  nano_lt := by
    have hLess := clock.nano_lt
    omega
  leap_end h := clock.leap_end (by omega)

/-- A time cut to milliseconds shows the same second. -/
theorem Clock.shownSecond_wholeMillis (clock : Clock) : clock.wholeMillis.shownSecond = clock.shownSecond := by
  have hNano : 1000000000 ≤ clock.nano / 1000000 * 1000000 ↔ 1000000000 ≤ clock.nano := by omega
  have hLeap : clock.wholeMillis.isLeap = clock.isLeap := decide_eq_decide.mpr hNano
  rw [shownSecond, hLeap]
  rfl

/-- A time cut to milliseconds shows the same milliseconds. -/
theorem Clock.shownNano_wholeMillis (clock : Clock) :
    clock.wholeMillis.shownNano / 1000000 = clock.shownNano / 1000000 := by
  simp only [shownNano, wholeMillis]
  omega

namespace Timestamp

/-- Every time is read back to the millisecond. -/
theorem read?_write_wholeMillis (moment : DateTime) :
    read? (write moment).toList = some { moment with clock := moment.clock.wholeMillis } := by
  have hSpelling : Spelling.ofMoment { moment with clock := moment.clock.wholeMillis } =
      Spelling.ofMoment moment := by
    simp only [Spelling.ofMoment, Clock.shownSecond_wholeMillis, Clock.shownNano_wholeMillis]
    rfl
  have hText := congrArg Spelling.text hSpelling
  rw [Spelling.text_ofMoment, Spelling.text_ofMoment] at hText
  rw [← hText]
  exact read?_write (Nat.mul_mod_left _ _)

end Timestamp

/-! ### What timestamps tell -/

/-- A time of day shows the numbers that it was made of. -/
theorem Clock.shown_of_of? {hour minute second nano : Nat} {clock : Clock} (hNano : nano < 1000000000)
    (h : of? hour minute second nano = some clock) :
    clock.hour = hour ∧ clock.minute = minute ∧ clock.shownSecond = second ∧ clock.shownNano = nano := by
  refine ⟨hour_of_of? h, ?_⟩
  obtain ⟨hParts, hSame⟩ := Option.dite_none_right_eq_some.mp h
  obtain rfl := Option.some.inj hSame
  obtain ⟨⟨-, hMinute, hSecond⟩, -⟩ := hParts
  simp only [Clock.minute, shownSecond, shownNano, Clock.isLeap, beq_iff_eq]
  split
  · next hSixty =>
      have hLeap : 1000000000 ≤ 1000000000 + nano := Nat.le_add_right _ _
      simp only [hLeap, decide_true, if_true]
      omega
  · have hPlain : ¬1000000000 ≤ nano := by omega
    simp only [hPlain, decide_false, Bool.false_eq_true, if_false]
    omega

/-- Without a count of seconds a date and time is made of its date and of its time of day. -/
theorem Components.parts_of_toDateTime {components : Components} {moment : DateTime}
    (hStamp : components.get .stamp = none) (h : components.toDateTime = .ok moment) :
    components.toDate = .ok moment.date ∧ components.toClock = .ok moment.clock := by
  simp only [toDateTime, hStamp] at h
  cases hDate : components.toDate with
  | error fault =>
      simp only [hDate] at h
      obtain ⟨_, hNone, -⟩ := bind_eq_ok h
      cases hNone
  | ok date =>
      cases hClock : components.toClock with
      | error fault =>
          simp only [hDate, hClock] at h
          obtain ⟨_, -, h⟩ := bind_eq_ok h
          obtain ⟨_, hNone, -⟩ := bind_eq_ok h
          cases hNone
      | ok clock =>
          simp only [hDate, hClock] at h
          rw [← Except.ok.inj h]
          exact ⟨rfl, rfl⟩

namespace Item

variable {items : List Item} {numeric : Numeric} {components : Components} {text : List Char}
  {last : Progress}

/-- A character that stands for itself was there if the items were taken. -/
theorem exists_literal_of_takeAll {c : Char}
    (h : takeAll (.literal c :: items) ⟨components, text⟩ = .ok last) :
    ∃ rest, text = c :: rest ∧ takeAll items ⟨components, rest⟩ = .ok last := by
  obtain ⟨next, hTake, h⟩ := bind_eq_ok h
  simp only [take] at hTake
  split at hTake
  · next d rest =>
      split at hTake
      · next hSame =>
          obtain rfl := Except.ok.inj hTake
          exact ⟨rest, by rw [beq_iff_eq.mp hSame], h⟩
      · cases hTake
  · cases hTake

/-- A number in front of such a character was written there, and it was stored. -/
theorem exists_written_of_takeAll {c : Char}
    (h : takeAll (.number numeric :: .literal c :: items) ⟨components, text⟩ = .ok last) :
    ∃ written value rest next, text = written ++ c :: rest ∧ numeric.Writes written value ∧
      numeric.store value components = .ok next ∧ takeAll items ⟨next, rest⟩ = .ok last := by
  obtain ⟨between, hTake, hLast⟩ := bind_eq_ok h
  obtain ⟨⟨value, behind⟩, hTaken, hTake⟩ := bind_eq_ok hTake
  obtain ⟨next, hStore, hTake⟩ := bind_eq_ok hTake
  obtain rfl := Except.ok.inj hTake
  obtain ⟨written, hText, hWrites⟩ := Numeric.exists_written_of_take hTaken
  obtain ⟨rest, hBehind, hLast⟩ := exists_literal_of_takeAll hLast
  exact ⟨written, value, rest, next, hBehind ▸ hText, hWrites, hStore, hLast⟩

/-- The number is what is known in the end. -/
theorem exists_told_of_takeAll {part : Part} {c : Char}
    (hStore : ∀ value components, numeric.store value components = components.set part value)
    (h : takeAll (.number numeric :: .literal c :: items) ⟨components, text⟩ = .ok last) :
    ∃ written value rest next, text = written ++ c :: rest ∧ numeric.Writes written value ∧
      last.components.get part = some value ∧ takeAll items ⟨next, rest⟩ = .ok last := by
  obtain ⟨written, value, rest, next, hText, hWrites, hSet, hLast⟩ := exists_written_of_takeAll h
  rw [hStore] at hSet
  exact ⟨written, value, rest, next, hText, hWrites,
    get_of_takeAll hLast (Components.get_of_set hSet), hLast⟩

/-- Places that were taken are as many digits as the item asks for. -/
theorem exists_places_of_takeAll {count : Nat}
    (h : takeAll (.places count :: items) ⟨components, text⟩ = .ok last) :
    ∃ digits rest next, text = digits ++ rest ∧ (∀ c ∈ digits, c.isDigit = true) ∧
      digits.length = count ∧
      components.set .nano ((digitsValue digits * Nat.pow 10 (9 - count) : Nat) : Int) = .ok next ∧
      takeAll items ⟨next, rest⟩ = .ok last := by
  obtain ⟨between, hTake, hLast⟩ := bind_eq_ok h
  obtain ⟨⟨value, rest⟩, hTaken, hTake⟩ := bind_eq_ok hTake
  obtain ⟨next, hSet, hTake⟩ := bind_eq_ok hTake
  obtain rfl := Except.ok.inj hTake
  obtain ⟨⟨n, behind⟩, hNumber, hValue⟩ := map_eq_ok hTaken
  obtain ⟨rfl, rfl⟩ := Prod.mk.inj hValue
  obtain ⟨digits, hText, hDigits, hLeast, hMost, rfl⟩ := exists_digits_of_takeNumber hNumber
  exact ⟨digits, behind, next, hText, hDigits, Nat.le_antisymm (hMost count rfl) hLeast, hSet, hLast⟩

end Item

/-- An hour is kept as the half of the day and the hour in it. -/
theorem Components.get_of_setHour {components next : Components} {value : Int}
    (h : components.setHour value = .ok next) :
    next.get .half = some (value / 12) ∧ next.get .hourOfHalf = some (value % 12) := by
  unfold setHour at h
  split at h
  · cases h
  · obtain ⟨between, hHalf, hHour⟩ := bind_eq_ok h
    refine ⟨?_, get_of_set hHour⟩
    rw [get_of_set_of_ne hHour (by decide)]
    exact get_of_set hHalf

/-- A time of day that is determined shows the numbers that were stored. -/
theorem Components.shown_of_toClock {components : Components} {clock : Clock} {hour minute second : Int}
    {nano : Nat} (hHalf : components.get .half = some (hour / 12))
    (hHour : components.get .hourOfHalf = some (hour % 12))
    (hMinute : components.get .minute = some minute) (hSecond : components.get .second = some second)
    (hNano : components.get .nano = some (nano : Int)) (hRange : components.InRange)
    (h : components.toClock = .ok clock) :
    clock.hour = hour.toNat ∧ clock.minute = minute.toNat ∧ clock.shownSecond = second.toNat ∧
      clock.shownNano = nano := by
  obtain ⟨-, half, hourOfHalf, _, hHalfFound, hHourFound, hMinuteFound, hFound⟩ :=
    toClock_eq_ok_iff.mp h
  obtain rfl := Option.some.inj (hHalf.symm.trans hHalfFound)
  obtain rfl := Option.some.inj (hHour.symm.trans hHourFound)
  obtain rfl := Option.some.inj (hMinute.symm.trans hMinuteFound)
  have hWhole : hour / 12 * 12 + hour % 12 = hour := by omega
  have hLess := (hRange .nano nano hNano).2
  simp only [Part.range] at hLess
  rw [hSecond, hNano, hWhole] at hFound
  exact Clock.shown_of_of? (by omega) hFound

/-- Only numbers with a sign may be negative. -/
theorem Numeric.Writes.nonneg {numeric : Numeric} {written : List Char} {value : Int}
    (h : numeric.Writes written value) (hSigned : numeric.isSigned = false) : 0 ≤ value := by
  cases h with
  | unsigned => omega
  | positive => omega
  | negative h => simp [hSigned] at h

namespace Timestamp

/-- A timestamp tells no count of seconds. -/
theorem stamp_of_scan {text : List Char} {components : Components}
    (h : Item.scan items text = .ok components) : components.get .stamp = none := by
  cases hKnown : components.get .stamp with
  | none => rfl
  | some stamp =>
      have hNone : ∀ item ∈ items, .stamp ∉ item.parts := by decide
      obtain ⟨item, hItem, hPart⟩ := Item.exists_item_of_scan h hKnown
      exact absurd hPart (hNone item hItem)

/-- What is read from a timestamp is a time of which it spells the numbers. -/
theorem exists_spelling_of_read? {text : List Char} {moment : DateTime} (h : read? text = some moment) :
    ∃ s : Spelling, s.text = Text.trim text ∧ s.Tells moment := by
  obtain ⟨components, hScan, hDateTime⟩ := bind_eq_ok (eq_ok_of_toOption h)
  have hRange := Item.inRange_of_scan hScan
  obtain ⟨hDate, hClock⟩ := Components.parts_of_toDateTime (stamp_of_scan hScan) hDateTime
  -- each item takes its number from the text, which is then known to the end
  obtain ⟨year, yearValue, _, _, hText, hYear, hYearKnown, hTake⟩ :=
    Item.exists_told_of_takeAll (fun _ _ => rfl) (Item.takeAll_of_scan hScan)
  obtain ⟨month, monthValue, _, _, rfl, hMonth, hMonthKnown, hTake⟩ :=
    Item.exists_told_of_takeAll (fun _ _ => rfl) hTake
  obtain ⟨day, dayValue, _, _, rfl, hDay, hDayKnown, hTake⟩ :=
    Item.exists_told_of_takeAll (fun _ _ => rfl) hTake
  obtain ⟨hour, hourValue, _, _, rfl, hHour, hHourSet, hTake⟩ := Item.exists_written_of_takeAll hTake
  obtain ⟨hHalfSet, hHourSet⟩ := Components.get_of_setHour hHourSet
  have hHalfKnown := Item.get_of_takeAll hTake hHalfSet
  have hHourKnown := Item.get_of_takeAll hTake hHourSet
  obtain ⟨minute, minuteValue, _, _, rfl, hMinute, hMinuteKnown, hTake⟩ :=
    Item.exists_told_of_takeAll (fun _ _ => rfl) hTake
  obtain ⟨second, secondValue, _, _, rfl, hSecond, hSecondKnown, hTake⟩ :=
    Item.exists_told_of_takeAll (fun _ _ => rfl) hTake
  obtain ⟨millis, _, _, rfl, hDigits, hLength, hNanoSet, hTake⟩ := Item.exists_places_of_takeAll hTake
  have hNanoKnown := Item.get_of_takeAll hTake (Components.get_of_set hNanoSet)
  obtain ⟨rest, rfl, hTake⟩ := Item.exists_literal_of_takeAll hTake
  obtain rfl : rest = [] := congrArg Progress.rest (Except.ok.inj hTake)
  -- what is known are the numbers of the date and of the time of day
  obtain ⟨hDescribes, -⟩ := (Components.toDate_eq_ok_iff hRange).mp hDate
  obtain rfl := hDescribes.year.1 yearValue hYearKnown
  obtain rfl := hDescribes.month monthValue hMonthKnown
  obtain rfl := hDescribes.day dayValue hDayKnown
  have hShown := Components.shown_of_toClock hHalfKnown hHourKnown hMinuteKnown hSecondKnown hNanoKnown
    hRange hClock
  have hHourPositive := hHour.nonneg rfl
  have hMinutePositive := hMinute.nonneg rfl
  have hSecondPositive := hSecond.nonneg rfl
  obtain rfl : hourValue = moment.clock.hour := by omega
  obtain rfl : minuteValue = moment.clock.minute := by omega
  obtain rfl : secondValue = moment.clock.shownSecond := by omega
  have hNano : digitsValue millis * 1000000 = moment.clock.shownNano := hShown.2.2.2.symm
  exact ⟨⟨year, month, day, hour, minute, second, millis⟩, hText.symm,
    ⟨hYear, hMonth, hDay, hHour, hMinute, hSecond, hLength, hDigits, hNano⟩⟩

/-- White space is no timestamp. -/
theorem isBlank_of_read? {text : List Char} {moment : DateTime} (h : read? text = some moment) :
    Text.isBlank text = false := by
  obtain ⟨s, hText, -⟩ := exists_spelling_of_read? h
  rw [← Bool.not_eq_true, ← Text.trim_eq_nil_iff, ← hText]
  simp [Spelling.text]

/-- What is read from a timestamp is a whole number of milliseconds, in a leap second as well. -/
theorem nano_of_read? {text : List Char} {instant : Instant} (h : read? text = some instant) :
    instant.clock.nano % 1000000 = 0 := by
  obtain ⟨s, -, hTells⟩ := exists_spelling_of_read? h
  exact hTells.millis

end Timestamp
end Calendar

/-- A timestamp that can be read is written alike in saved entries and in the entries of bare messages, and
what is read again there is the same instant. -/
theorem timestamp_survives {text : String} {instant : Calendar.Instant}
    (h : Calendar.Timestamp.read? text.toList = some instant) :
    (∀ saved : SavedEntry, saved.entry.timestamp = instant →
        ∃ members, saved.toJson = .object (("timestamp", .string instant.millisText) :: members)) ∧
      (∀ stamp message, (RawEntry.ofLine (some stamp) instant message).map (·.timestamp) =
        .ok instant.millisText) ∧
      Calendar.Timestamp.read? instant.millisText.toList = some instant := by
  have hAlike := Calendar.Timestamp.write_eq_millisText instant
  refine ⟨?_, ?_, ?_⟩
  · rintro saved rfl
    exact ⟨_, rfl⟩
  · intro stamp message
    rw [← hAlike]
    rfl
  · rw [← hAlike]
    exact Calendar.Timestamp.read?_write (Calendar.Timestamp.nano_of_read? h)

/-- A leap second before the year zero. -/
theorem timestamp_survives_leapSecond :
    ∃ instant, Calendar.Timestamp.read? " -0044-06-30T23:59:60.250Z ".toList = some instant ∧
      instant.millisText = "-0044-06-30T23:59:60.250Z" ∧
      Calendar.Timestamp.read? instant.millisText.toList = some instant := by
  have hRead : (Calendar.Timestamp.read? " -0044-06-30T23:59:60.250Z ".toList).map
      Calendar.DateTime.millisText = some "-0044-06-30T23:59:60.250Z" := by
    decide +kernel
  obtain ⟨instant, hInstant, hText⟩ := Option.map_eq_some_iff.mp hRead
  exact ⟨instant, hInstant, hText, (timestamp_survives hInstant).2.2⟩

end LogIngest

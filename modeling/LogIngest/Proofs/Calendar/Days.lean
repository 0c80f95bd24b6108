import Mathlib.Tactic.ByContra
import Mathlib.Tactic.IntervalCases
import Mathlib.Tactic.SplitIfs
import LogIngest.Calendar.Date

/-!
Dates and the numbers of their days. Main statements: a date is told by its year and the number of its day
within it, by the number of its day in the whole calendar, and by a week with a weekday, whichever way the
weeks are counted; and every number between those of the first and of the last day is that of a date.
-/

namespace LogIngest.Calendar

/-! ### Years -/

/-- The number of days of a year. -/
def daysInYear (year : Int) : Nat :=
  if isLeap year then 366 else 365

/-- The rule of leap years in terms of remainders. -/
theorem isLeap_iff {year : Int} :
    isLeap year = true ↔ year % 4 = 0 ∧ (year % 100 ≠ 0 ∨ year % 400 = 0) := by
  simp [isLeap]

/-- A year begins behind the days of the year before it. -/
theorem daysBeforeYear_succ (year : Int) :
    daysBeforeYear (year + 1) = daysBeforeYear year + daysInYear year := by
  have hLeap := @isLeap_iff year
  have hFour : year / 4 = (year - 1) / 4 + if year % 4 = 0 then 1 else 0 := by split <;> omega
  have hHundred : year / 100 = (year - 1) / 100 + if year % 100 = 0 then 1 else 0 := by
    split <;> omega
  have hCycle : year / 400 = (year - 1) / 400 + if year % 400 = 0 then 1 else 0 := by
    split <;> omega
  have hCycleFirst : year % 400 = 0 → year % 100 = 0 := by omega
  have hHundredFirst : year % 100 = 0 → year % 4 = 0 := by omega
  unfold daysBeforeYear daysInYear
  simp only [Int.add_sub_cancel, hFour, hHundred, hCycle, hLeap]
  split_ifs <;> omega

/-- Later years begin later, so the year of a day can be found by comparing. -/
theorem daysBeforeYear_mono {year later : Int} (h : year ≤ later) :
    daysBeforeYear year ≤ daysBeforeYear later := by
  unfold daysBeforeYear
  dsimp only
  omega

/-- Every four hundred years have the same number of days. -/
theorem daysBeforeYear_cycle (cycle year : Int) :
    daysBeforeYear (400 * cycle + year) = 146097 * cycle + daysBeforeYear year := by
  unfold daysBeforeYear
  dsimp only
  omega

/-- The days of the first years of a cycle. -/
def daysOfYears (years : Nat) : Nat :=
  365 * years + years / 4 - years / 100 + years / 400

/-- Every cycle of four hundred years has the same number of days. -/
theorem daysBeforeYear_of_cycle (cycle : Int) (years : Nat) :
    daysBeforeYear (400 * cycle + years + 1) = 146097 * cycle + daysOfYears years := by
  rw [Int.add_assoc, daysBeforeYear_cycle]
  unfold daysBeforeYear daysOfYears
  dsimp only
  omega

/-- The leap days of a cycle are fewer than the days of a year. -/
theorem daysOfYears_bounds (years : Nat) :
    365 * years ≤ daysOfYears years ∧ (years ≤ 401 → daysOfYears years < 365 * years + 365) := by
  unfold daysOfYears
  omega

/-- So a day lies in the year that 365 days for each would make it, or in the one before. -/
theorem daysOfYears_le_and_lt {day years : Nat} (hDay : day < 146097)
    (hYears : years = if day < daysOfYears (day / 365) then day / 365 - 1 else day / 365) :
    daysOfYears years ≤ day ∧ day < daysOfYears (years + 1) := by
  split at hYears
  · next hEarly =>
      have hSome : 1 ≤ day / 365 := by
        by_contra hNone
        rw [show day / 365 = 0 by omega] at hEarly
        exact absurd hEarly (Nat.not_lt_zero day)
      have hBefore := (daysOfYears_bounds years).2
      rw [show years + 1 = day / 365 by omega]
      omega
  · have hAfter := (daysOfYears_bounds (years + 1)).1
    subst hYears
    omega

/-- The year of a day is the one between whose start and end it lies. -/
theorem yearAndOrdinal_spec (number : Int) :
    daysBeforeYear (yearAndOrdinal number).1 + (yearAndOrdinal number).2 = number ∧
      1 ≤ (yearAndOrdinal number).2 ∧ number ≤ daysBeforeYear ((yearAndOrdinal number).1 + 1) := by
  obtain ⟨cycle, day, years, hNumber, hDay, hYears, hSame⟩ : ∃ (cycle : Int) (day years : Nat),
      number = 146097 * cycle + day + 1 ∧ day < 146097 ∧
      (years = if day < daysOfYears (day / 365) then day / 365 - 1 else day / 365) ∧
      yearAndOrdinal number = (400 * cycle + years + 1, day - daysOfYears years + 1) :=
    ⟨(number - 1) / 146097, ((number - 1) % 146097).toNat, _, by omega, by omega, rfl, rfl⟩
  obtain ⟨hStart, hEnd⟩ := daysOfYears_le_and_lt hDay hYears
  have hNext := daysBeforeYear_of_cycle cycle (years + 1)
  rw [hSame]
  dsimp only
  rw [daysBeforeYear_of_cycle]
  rw [show 400 * cycle + years + 1 + 1 = 400 * cycle + (years + 1 : Nat) + 1 by omega, hNext]
  omega

/-- The year and the day within it are told by the number of the day. -/
theorem yearAndOrdinal_eq {year : Int} {ordinal : Nat}
    (hOrdinal : 1 ≤ ordinal ∧ ordinal ≤ daysInYear year) :
    yearAndOrdinal (daysBeforeYear year + ordinal) = (year, ordinal) := by
  obtain ⟨hNumber, hFirst, hLast⟩ := yearAndOrdinal_spec (daysBeforeYear year + ordinal)
  generalize yearAndOrdinal (daysBeforeYear year + ordinal) = told at *
  obtain ⟨toldYear, toldOrdinal⟩ := told
  dsimp only at *
  have hEnd := daysBeforeYear_succ year
  have hSame : toldYear = year := by
    by_contra hOther
    rcases Int.lt_or_gt_of_ne hOther with hBefore | hAfter
    · have hMono := daysBeforeYear_mono (show toldYear + 1 ≤ year by omega)
      omega
    · have hMono := daysBeforeYear_mono (show year + 1 ≤ toldYear by omega)
      omega
  subst hSame
  have hSameDay : toldOrdinal = ordinal := by omega
  rw [hSameDay]

/-! ### Days of a year -/

theorem length_monthLengths (year : Int) : (monthLengths year).length = 12 :=
  rfl

/-- The days of a year are those of its months. -/
theorem sum_monthLengths (year : Int) :
    (monthLengths year).foldr (· + ·) 0 = daysInYear year := by
  unfold monthLengths daysInYear
  split <;> rfl

namespace Date

variable {month day : Nat} {lengths : List Nat}

/-- The days of the months before one of them. -/
def daysBefore (lengths : List Nat) (months : Nat) : Nat :=
  (lengths.take months).foldr (· + ·) 0

/-- The number of a day, counted over the months before it, leads to the month and the day in it. -/
theorem monthAndDay_daysBefore (months : Nat) (hDay : 1 ≤ day)
    (hLength : ∃ length, lengths[months]? = some length ∧ day ≤ length) :
    monthAndDay month (daysBefore lengths months + day) lengths = some (month + months, day) := by
  induction lengths generalizing month months with
  | nil => obtain ⟨_, hNone, -⟩ := hLength; cases hNone
  | cons length lengths ih =>
      cases months with
      | zero =>
          obtain ⟨_, hLength, hLe⟩ := hLength
          cases hLength
          simp [daysBefore, monthAndDay, hLe]
      | succ months =>
          have hLater : ¬length + daysBefore lengths months + day ≤ length := by omega
          have hRest : length + daysBefore lengths months + day - length =
              daysBefore lengths months + day := by omega
          have hNext : monthAndDay (month + 1) (daysBefore lengths months + day) lengths =
              some (month + 1 + months, day) := ih months hLength
          have hSum : daysBefore (length :: lengths) (months + 1) = length + daysBefore lengths months :=
            rfl
          rw [hSum, monthAndDay, if_neg hLater, hRest, hNext, Nat.add_right_comm, Nat.add_assoc]

/-- A month and a day that were found from a number make up that number again. -/
theorem daysBefore_of_monthAndDay {ordinal first : Nat}
    (h : monthAndDay first ordinal lengths = some (month, day)) :
    ∃ months, month = first + months ∧ ordinal = daysBefore lengths months + day ∧
      (1 ≤ ordinal → 1 ≤ day) ∧ ∃ length, lengths[months]? = some length ∧ day ≤ length := by
  induction lengths generalizing first ordinal with
  | nil => cases h
  | cons length lengths ih =>
      unfold monthAndDay at h
      split at h
      · next hLe =>
          cases h
          exact ⟨0, rfl, by simp [daysBefore], id, length, rfl, hLe⟩
      · next hMore =>
          obtain ⟨months, rfl, hOrdinal, hDay, hLength⟩ := ih h
          refine ⟨months + 1, by omega, ?_, by omega, by simpa using hLength⟩
          simp only [daysBefore, List.take_succ_cons, List.foldr_cons] at hOrdinal ⊢
          omega

/-- A number that is not beyond the last month leads to some month. -/
theorem exists_monthAndDay {ordinal : Nat} (first : Nat) (h : ordinal ≤ lengths.foldr (· + ·) 0)
    (hSome : lengths ≠ []) : ∃ months, monthAndDay first ordinal lengths = some months := by
  induction lengths generalizing first ordinal with
  | nil => exact absurd rfl hSome
  | cons length lengths ih =>
      unfold monthAndDay
      split
      · exact ⟨_, rfl⟩
      · next hMore =>
          rw [List.foldr_cons] at h
          refine ih (first + 1) (by omega) ?_
          rintro rfl
          exact hMore h

/-- The months up to any one of them do not exceed all of them. -/
theorem daysBefore_add_le {months length : Nat} (h : lengths[months]? = some length) :
    daysBefore lengths months + length ≤ lengths.foldr (· + ·) 0 := by
  induction lengths generalizing months with
  | nil => cases h
  | cons first lengths ih =>
      cases months with
      | zero =>
          cases h
          simp [daysBefore]
      | succ months =>
          have hNext := ih h
          have hSum : daysBefore (first :: lengths) (months + 1) = first + daysBefore lengths months :=
            rfl
          rw [hSum, List.foldr_cons]
          omega

/-- The lengths are listed in the order of the months. -/
theorem getElem?_monthLengths (year : Int) (hMonth : 1 ≤ month ∧ month ≤ 12) :
    (monthLengths year)[month - 1]? = some (daysInMonth year month) := by
  have hLt : month - 1 < (monthLengths year).length := by
    rw [length_monthLengths]
    omega
  rw [daysInMonth, List.getD_eq_getElem?_getD, List.getElem?_eq_getElem hLt, Option.getD_some]

variable (date : Date)

/-- The day of a year is one of its days. -/
theorem ordinal_mem : 1 ≤ date.ordinal ∧ date.ordinal ≤ daysInYear date.year := by
  have hDay := date.day_mem
  have hSum := daysBefore_add_le (getElem?_monthLengths date.year date.month_mem)
  rw [sum_monthLengths] at hSum
  have hOrdinal : date.ordinal = daysBefore (monthLengths date.year) (date.month - 1) + date.day := rfl
  omega

/-- A date is the one of its own parts. -/
theorem of?_self : of? date.year date.month date.day = some date :=
  dif_pos ⟨date.year_mem, date.month_mem, date.day_mem⟩

/-- A date that can be made has the parts that it was made of. -/
theorem eq_of_of? {year : Int} {date : Date} (h : of? year month day = some date) :
    date.year = year ∧ date.month = month ∧ date.day = day := by
  unfold of? at h
  split at h
  · cases h
    exact ⟨rfl, rfl, rfl⟩
  · cases h

/-- A date is the one of its year and its day within it. -/
theorem ofOrdinal?_self : ofOrdinal? date.year date.ordinal = some date := by
  have hFound : monthAndDay 1 date.ordinal (monthLengths date.year) =
      some (1 + (date.month - 1), date.day) :=
    monthAndDay_daysBefore (date.month - 1) date.day_mem.1
      ⟨_, getElem?_monthLengths date.year date.month_mem, date.day_mem.2⟩
  rw [Nat.add_sub_cancel' date.month_mem.1] at hFound
  simp only [ofOrdinal?, hFound]
  exact date.of?_self

/-- A date made of a year and a number of a day has these. -/
theorem eq_of_ofOrdinal? {year : Int} {ordinal : Nat} {date : Date}
    (h : ofOrdinal? year ordinal = some date) : date.year = year ∧ date.ordinal = ordinal := by
  obtain ⟨⟨month, day⟩, hFound, hDate⟩ := Option.bind_eq_some_iff.mp h
  obtain ⟨months, rfl, hOrdinal, -, -⟩ := daysBefore_of_monthAndDay hFound
  obtain ⟨rfl, hMonth, rfl⟩ := eq_of_of? hDate
  refine ⟨rfl, ?_⟩
  rw [hOrdinal, Date.ordinal, hMonth, Nat.add_sub_cancel_left]
  rfl

/-- Every day of a year of the calendar is a date. -/
theorem exists_ofOrdinal? {year : Int} {ordinal : Nat} (hYear : minYear ≤ year ∧ year ≤ maxYear)
    (hOrdinal : 1 ≤ ordinal ∧ ordinal ≤ daysInYear year) :
    ∃ date, ofOrdinal? year ordinal = some date := by
  rw [← sum_monthLengths] at hOrdinal
  obtain ⟨⟨month, day⟩, hFound⟩ := exists_monthAndDay 1 hOrdinal.2 (List.cons_ne_nil _ _)
  obtain ⟨months, rfl, -, hDay, length, hLength, hLe⟩ := daysBefore_of_monthAndDay hFound
  have hMonths : months < 12 := (List.getElem?_eq_some_iff.mp hLength).1
  have hMonth : 1 ≤ 1 + months ∧ 1 + months ≤ 12 := by omega
  have hSame := getElem?_monthLengths year hMonth
  rw [Nat.add_sub_cancel_left, hLength] at hSame
  have hDate : of? year (1 + months) day = some ⟨year, 1 + months, day, hYear, hMonth,
      hDay hOrdinal.1, Option.some.inj hSame ▸ hLe⟩ :=
    dif_pos ⟨hYear, hMonth, hDay hOrdinal.1, Option.some.inj hSame ▸ hLe⟩
  exact ⟨_, by simp only [ofOrdinal?, hFound]; exact hDate⟩

/-! ### Days of the calendar -/

/-- The number of a day in the calendar tells the year and the day in it. -/
theorem yearAndOrdinal_number : yearAndOrdinal date.number = (date.year, date.ordinal) :=
  yearAndOrdinal_eq date.ordinal_mem

/-- A date is the one of the number of its day. -/
theorem ofNumber?_number : ofNumber? date.number = some date := by
  rw [ofNumber?, yearAndOrdinal_number]
  exact date.ofOrdinal?_self

/-- A date made of a number has that number. -/
theorem number_of_ofNumber? {number : Int} {date : Date} (h : ofNumber? number = some date) :
    date.number = number := by
  obtain ⟨hYear, hOrdinal⟩ := eq_of_ofOrdinal? h
  rw [Date.number, hYear, hOrdinal]
  exact (yearAndOrdinal_spec number).1

/-- Dates with the same number are the same. -/
theorem eq_of_number_eq {date other : Date} (h : date.number = other.number) : date = other := by
  have hDate := date.ofNumber?_number
  rw [h, ofNumber?_number] at hDate
  exact (Option.some.inj hDate).symm

/-- The days from the first year to the last one all have a date. -/
theorem exists_ofNumber? {number : Int} (hFirst : daysBeforeYear minYear < number)
    (hLast : number ≤ daysBeforeYear (maxYear + 1)) : ∃ date, ofNumber? number = some date := by
  obtain ⟨hNumber, hOrdinal, hEnd⟩ := yearAndOrdinal_spec number
  rw [ofNumber?]
  generalize yearAndOrdinal number = told at *
  obtain ⟨year, ordinal⟩ := told
  dsimp only at *
  have hYear := daysBeforeYear_succ year
  refine exists_ofOrdinal? ⟨?_, ?_⟩ ⟨hOrdinal, by omega⟩
  · by_contra hEarly
    have hMono := daysBeforeYear_mono (show year + 1 ≤ minYear by omega)
    omega
  · by_contra hLate
    have hMono := daysBeforeYear_mono (show maxYear + 1 ≤ year by omega)
    omega

/-- The days of a year stand between its beginning and that of the next one. -/
theorem number_mem_year : daysBeforeYear date.year < date.number ∧
    date.number ≤ daysBeforeYear (date.year + 1) := by
  have hOrdinal := date.ordinal_mem
  rw [daysBeforeYear_succ, number]
  omega

/-! ### Weeks -/

/-- The distance of two weekdays, counted forward from the second one. -/
theorem weekday_sub_val (weekday start : Weekday) :
    (weekday - start).val = (weekday.val + 7 - start.val) % 7 := by
  have hStart := start.isLt
  rw [Fin.sub_def]
  change (7 - start.val + weekday.val) % 7 = _
  rw [show 7 - start.val + weekday.val = weekday.val + 7 - start.val by omega]

/-- Weekdays follow each other with the numbers of the days. -/
theorem weekdayOf_val (number : Int) : ((weekdayOf number).val : Int) = (number - 1) % 7 := by
  simp only [weekdayOf, Weekday.ofNat]
  omega

theorem weekday_ofNat_val (weekday : Weekday) : Weekday.ofNat weekday.val = weekday :=
  Fin.ext (Nat.mod_eq_of_lt weekday.isLt)

/-- A date is the one of its week and its weekday, on whichever day weeks start. -/
theorem ofWeek?_self (start : Weekday) :
    ofWeek? date.year (date.weekFrom start) date.weekday start = some date := by
  have hOrdinal := date.ordinal_mem
  have hWeekday : (date.weekday.val : Int) = (daysBeforeYear date.year + date.ordinal - 1) % 7 :=
    weekdayOf_val date.number
  have hFirst := weekdayOf_val (daysBeforeYear date.year + 1)
  have hStart := start.isLt
  have hDay : (1 + (start - weekdayOf (daysBeforeYear date.year + 1)).val +
      ((date.weekFrom start : Int) - 1) * 7 + (date.weekday - start).val : Int) = date.ordinal := by
    unfold weekFrom
    rw [weekday_sub_val, weekday_sub_val]
    omega
  have hPositive : ¬(date.ordinal : Int) ≤ 0 := by omega
  simp only [ofWeek?, hDay, hPositive, if_false, Int.toNat_natCast]
  exact date.ofOrdinal?_self

/-- A date is the one of its week and its weekday, where weeks belong to the year of their Thursday. -/
theorem ofIsoWeek?_self :
    ofIsoWeek? date.isoWeek.1 date.isoWeek.2 date.weekday = some date := by
  have hWeekday : (date.weekday.val : Int) = (date.number - 1) % 7 := weekdayOf_val date.number
  obtain ⟨hThursday, hOrdinal, -⟩ := yearAndOrdinal_spec (date.number - date.weekday.val + 3)
  generalize hYear : (yearAndOrdinal (date.number - date.weekday.val + 3)).1 = year at *
  generalize hDay : (yearAndOrdinal (date.number - date.weekday.val + 3)).2 = ordinal at *
  have hWeek : date.isoWeek = (year, (ordinal - 1) / 7 + 1) := by
    simp only [isoWeek, hYear, hDay]
  have hFourth := weekdayOf_val (daysBeforeYear year + 4)
  have hMonday : daysBeforeYear year + 4 - ((weekdayOf (daysBeforeYear year + 4)).val : Int) +
      7 * ((((ordinal - 1) / 7 + 1 : Nat) : Int) - 1) = date.number - date.weekday.val := by
    omega
  have hNumber : date.number - date.weekday.val + date.weekday.val = date.number := by omega
  simp only [hWeek, ofIsoWeek?, hMonday, hYear, hNumber, beq_self_eq_true, Bool.and_true,
    Nat.le_add_left, decide_true, if_true]
  exact date.ofNumber?_number

/-- A date made of a year, a week and a weekday lies in that year. -/
theorem year_of_ofWeek? {year : Int} {week : Nat} {weekday start : Weekday} {date : Date}
    (h : ofWeek? year week weekday start = some date) : date.year = year := by
  unfold ofWeek? at h
  dsimp only at h
  split at h
  · cases h
  · exact (eq_of_ofOrdinal? h).1

/-- A date made of a week that is counted from its Thursday has that week and that weekday. -/
theorem eq_of_ofIsoWeek? {year : Int} {week : Nat} {weekday : Weekday} {date : Date}
    (h : ofIsoWeek? year week weekday = some date) :
    date.isoWeek = (year, week) ∧ date.weekday = weekday := by
  unfold ofIsoWeek? at h
  dsimp only at h
  split at h
  · next hWeek =>
      simp only [Bool.and_eq_true, decide_eq_true_eq, beq_iff_eq] at hWeek
      obtain ⟨hPositive, hYear⟩ := hWeek
      have hNumber := number_of_ofNumber? h
      have hFourth := weekdayOf_val (daysBeforeYear year + 4)
      have hSeven := weekday.isLt
      have hWeekday : date.weekday = weekday := by
        have hVal := weekdayOf_val date.number
        apply Fin.ext
        unfold Date.weekday
        omega
      obtain ⟨hThursday, hOrdinal, -⟩ := yearAndOrdinal_spec (date.number - date.weekday.val + 3)
      have hSame : date.number - date.weekday.val + 3 = daysBeforeYear year + 4 -
          ((weekdayOf (daysBeforeYear year + 4)).val : Int) + 7 * ((week : Int) - 1) + 3 := by
        rw [hWeekday, hNumber]
        omega
      have hWeek : date.isoWeek = ((yearAndOrdinal (date.number - date.weekday.val + 3)).1,
          ((yearAndOrdinal (date.number - date.weekday.val + 3)).2 - 1) / 7 + 1) := rfl
      refine ⟨?_, hWeekday⟩
      rw [hSame] at hThursday hOrdinal hWeek
      rw [hYear] at hThursday hWeek
      rw [hWeek, Prod.mk.injEq]
      omega
  · cases h

/-- The Thursday of the week of a date lies in the year that the week belongs to. -/
theorem thursday_mem_isoYear :
    daysBeforeYear date.isoWeek.1 < date.number - (date.number - 1) % 7 + 3 ∧
      date.number - (date.number - 1) % 7 + 3 ≤ daysBeforeYear (date.isoWeek.1 + 1) := by
  have hWeekday : (date.weekday.val : Int) = (date.number - 1) % 7 := weekdayOf_val date.number
  obtain ⟨hThursday, hOrdinal, hEnd⟩ := yearAndOrdinal_spec (date.number - date.weekday.val + 3)
  rw [← hWeekday]
  unfold isoWeek
  dsimp only
  omega

/-- A week belongs to the year of a date of it, or to one of the years beside it. -/
theorem isoYear_mem : date.year - 1 ≤ date.isoWeek.1 ∧ date.isoWeek.1 ≤ date.year + 1 := by
  obtain ⟨hFirst, hLast⟩ := date.thursday_mem_isoYear
  obtain ⟨hStart, hEnd⟩ := date.number_mem_year
  have hBefore := daysBeforeYear_succ (date.year - 1)
  have hAfter := daysBeforeYear_succ (date.year + 1)
  rw [Int.sub_add_cancel] at hBefore
  have hDays : ∀ year, 365 ≤ daysInYear year := by
    intro year
    unfold daysInYear
    split <;> omega
  have hDaysBefore := hDays (date.year - 1)
  have hDaysAfter := hDays (date.year + 1)
  constructor
  · by_contra hEarly
    have hMono := daysBeforeYear_mono (show date.isoWeek.1 + 1 ≤ date.year - 1 by omega)
    omega
  · by_contra hLate
    have hMono := daysBeforeYear_mono (show date.year + 1 + 1 ≤ date.isoWeek.1 by omega)
    omega

/-- The days of January, and the first days of months, are thirty days at least before the end of the year. -/
theorem ordinal_add_le (h : date.month = 1 ∨ date.day = 1) :
    date.ordinal + 30 ≤ daysInYear date.year := by
  have hDay := date.day_mem.2
  have hFirst := date.month_mem.1
  have hLast := date.month_mem.2
  rcases h with hJanuary | hFirstDay
  · have hLength : daysInMonth date.year 1 = 31 := rfl
    rw [hJanuary, hLength] at hDay
    have hOrdinal : date.ordinal = date.day := by simp [ordinal, hJanuary]
    unfold daysInYear
    split <;> omega
  · unfold ordinal monthLengths daysInYear
    rw [hFirstDay]
    generalize date.month = month at *
    interval_cases month <;> split <;> simp

/-- Weeks of the next year start in the last days of a December only. -/
theorem isoYear_le (h : date.month = 1 ∨ date.day = 1) : date.isoWeek.1 ≤ date.year := by
  have hOrdinal := date.ordinal_add_le h
  obtain ⟨hThursday, -⟩ := date.thursday_mem_isoYear
  have hNext := daysBeforeYear_succ date.year
  unfold number at hThursday
  by_contra hLate
  have hMono := daysBeforeYear_mono (show date.year + 1 ≤ date.isoWeek.1 by omega)
  omega

/-- The year 1970 started on a Thursday, so none of its days is in a week of the year before. -/
theorem le_isoYear_of_1970 (h : date.year = 1970) : 1970 ≤ date.isoWeek.1 := by
  obtain ⟨hFirst, -⟩ := date.number_mem_year
  obtain ⟨-, hThursday⟩ := date.thursday_mem_isoYear
  have hStart : daysBeforeYear 1970 = 719162 := rfl
  rw [h, hStart] at hFirst
  by_contra hEarly
  have hMono := daysBeforeYear_mono (show date.isoWeek.1 + 1 ≤ 1970 by omega)
  omega

end Date
end LogIngest.Calendar

/-!
Dates of the Gregorian calendar, reckoned backwards and forwards without end but kept within the years
that an instant can have.
-/

namespace LogIngest.Calendar

/-- The first year. -/
def minYear : Int := -262143

/-- The last year. -/
def maxYear : Int := 262142

def isLeap (year : Int) : Bool :=
  year % 4 == 0 && (year % 100 != 0 || year % 400 == 0)

/-- The lengths of the months from January on. -/
def monthLengths (year : Int) : List Nat :=
  [31, if isLeap year then 29 else 28, 31, 30, 31, 30, 31, 31, 30, 31, 30, 31]

def daysInMonth (year : Int) (month : Nat) : Nat :=
  (monthLengths year).getD (month - 1) 0

/-- The number of days before the first of January of a year, counted from the year one. -/
def daysBeforeYear (year : Int) : Int :=
  let years := year - 1
  365 * years + years / 4 - years / 100 + years / 400

/-- The days of the week as their distance from Monday. -/
abbrev Weekday := Fin 7

/-- The weekday so many days after a Monday. -/
def Weekday.ofNat (days : Nat) : Weekday :=
  ⟨days % 7, Nat.mod_lt days (by decide)⟩

def Weekday.monday : Weekday := .ofNat 0
def Weekday.sunday : Weekday := .ofNat 6

/-- The weekday of a day counted from the first of January of the year one, a Monday, which is day
one. -/
def weekdayOf (number : Int) : Weekday :=
  .ofNat ((number - 1) % 7).toNat

/-- The year of a day counted in the same way, and the number of the day within that year. Every four
hundred years have the same number of days. -/
def yearAndOrdinal (number : Int) : Int × Nat :=
  let cycle := (number - 1) / 146097
  let day := ((number - 1) % 146097).toNat
  let daysBefore (years : Nat) : Nat := 365 * years + years / 4 - years / 100 + years / 400
  let guess := day / 365
  let years := if day < daysBefore guess then guess - 1 else guess
  (400 * cycle + years + 1, day - daysBefore years + 1)

/-- A day of the calendar. -/
structure Date where
  year : Int
  month : Nat
  day : Nat
  year_mem : minYear ≤ year ∧ year ≤ maxYear
  month_mem : 1 ≤ month ∧ month ≤ 12
  day_mem : 1 ≤ day ∧ day ≤ daysInMonth year month
deriving DecidableEq, Repr

namespace Date

/-- The date of a year, month and day, if there is one. -/
def of? (year : Int) (month day : Nat) : Option Date :=
  if h : (minYear ≤ year ∧ year ≤ maxYear) ∧ (1 ≤ month ∧ month ≤ 12) ∧
      (1 ≤ day ∧ day ≤ daysInMonth year month) then
    some ⟨year, month, day, h.1, h.2.1, h.2.2⟩
  else none

/-- The number of the day within its year. -/
def ordinal (date : Date) : Nat :=
  ((monthLengths date.year).take (date.month - 1)).foldr (· + ·) 0 + date.day

/-- The month and the day of the month of a day counted from the start of `month`, given the lengths of
the months from there on. -/
def monthAndDay (month day : Nat) : List Nat → Option (Nat × Nat)
  | [] => none
  | length :: lengths =>
    if day ≤ length then some (month, day) else monthAndDay (month + 1) (day - length) lengths

/-- The date of a year and a day within it. -/
def ofOrdinal? (year : Int) (ordinal : Nat) : Option Date := do
  let (month, day) ← monthAndDay 1 ordinal (monthLengths year)
  of? year month day

/-- The number of the day, counted from the first of January of the year one. -/
def number (date : Date) : Int :=
  daysBeforeYear date.year + date.ordinal

def ofNumber? (number : Int) : Option Date :=
  let (year, ordinal) := yearAndOrdinal number
  ofOrdinal? year ordinal

/-- The date some days later. -/
def addDays? (date : Date) (days : Int) : Option Date :=
  ofNumber? (date.number + days)

def weekday (date : Date) : Weekday :=
  weekdayOf date.number

/-- The number of the week within the year, when weeks start on a given weekday and the days before the
first such day are week zero. -/
def weekFrom (date : Date) (start : Weekday) : Nat :=
  (date.ordinal + 6 - (date.weekday - start).val) / 7

/-- The date of a week counted in that way. -/
def ofWeek? (year : Int) (week : Nat) (weekday start : Weekday) : Option Date :=
  let first := weekdayOf (daysBeforeYear year + 1)
  let ordinal : Int := 1 + (start - first).val + ((week : Int) - 1) * 7 + (weekday - start).val
  if ordinal ≤ 0 then none else ofOrdinal? year ordinal.toNat

/-- The year and number of the week that starts on Monday and belongs to the year of its Thursday. -/
def isoWeek (date : Date) : Int × Nat :=
  let (year, ordinal) := yearAndOrdinal (date.number - date.weekday.val + 3)
  (year, (ordinal - 1) / 7 + 1)

/-- The date of a week counted in that way. -/
def ofIsoWeek? (year : Int) (week : Nat) (weekday : Weekday) : Option Date :=
  let fourth := daysBeforeYear year + 4
  let monday := fourth - (weekdayOf fourth).val + 7 * ((week : Int) - 1)
  if 1 ≤ week && (yearAndOrdinal (monday + 3)).1 == year then ofNumber? (monday + weekday.val)
  else none

/-- The quarter of the year. -/
def quarter (date : Date) : Nat :=
  (date.month - 1) / 3 + 1

end Date
end LogIngest.Calendar

import LogIngest.Calendar.Date
import LogIngest.Decimal.Numeral

/-!
Times of day, and dates with times. A time may lie within a leap second, which follows the last second
of a minute. The text of an instant has year, month and day, then the time of day with a fixed number of
places behind the second, in universal time.
-/

namespace LogIngest.Calendar

/-- A time of day: the second of the day, and the nanoseconds within it. From a thousand million
nanoseconds on, the time lies in the leap second that follows. -/
structure Clock where
  second : Nat
  nano : Nat
  second_lt : second < 86400
  nano_lt : nano < 2000000000
  leap_end : 1000000000 ≤ nano → second % 60 = 59
deriving DecidableEq, Repr

namespace Clock

/-- The time of an hour, minute and second; the sixtieth second of a minute is a leap second. -/
def of? (hour minute second nano : Nat) : Option Clock :=
  let leap := second == 60
  let wholeSecond := hour * 3600 + minute * 60 + (if leap then 59 else second)
  let nanos := if leap then 1000000000 + nano else nano
  if h : (hour < 24 ∧ minute < 60 ∧ second ≤ 60) ∧ wholeSecond < 86400 ∧ nanos < 2000000000 ∧
      (1000000000 ≤ nanos → wholeSecond % 60 = 59) then
    some ⟨wholeSecond, nanos, h.2.1, h.2.2.1, h.2.2.2⟩
  else none

def hour (clock : Clock) : Nat :=
  clock.second / 3600

def minute (clock : Clock) : Nat :=
  clock.second / 60 % 60

/-- Whether the time lies in a leap second. -/
def isLeap (clock : Clock) : Bool :=
  1000000000 ≤ clock.nano

/-- The second of the minute as it is shown, sixty in a leap second. -/
def shownSecond (clock : Clock) : Nat :=
  clock.second % 60 + if clock.isLeap then 1 else 0

/-- The nanoseconds of the shown second. -/
def shownNano (clock : Clock) : Nat :=
  clock.nano % 1000000000

end Clock

/-- The distance of a local time from universal time, in minutes east; less than a day. -/
structure Offset where
  minutes : Int
  minutes_mem : -1440 < minutes ∧ minutes < 1440
deriving DecidableEq, Repr

namespace Offset

/-- No distance. -/
def zero : Offset where
  minutes := 0
  minutes_mem := by decide

def ofMinutes? (minutes : Int) : Option Offset :=
  if h : -1440 < minutes ∧ minutes < 1440 then some ⟨minutes, h⟩ else none

end Offset

/-- A date with a time of day. -/
structure DateTime where
  date : Date
  clock : Clock
deriving DecidableEq, Repr

/-- A point in time, as the date and time of day of universal time. -/
abbrev Instant := DateTime

namespace DateTime

/-- The number of the day on which the count of seconds starts, the first of January 1970. -/
def epochDay : Int := 719163

/-- The seconds from the start of 1970 to the start of the second. -/
def seconds (moment : DateTime) : Int :=
  (moment.date.number - epochDay) * 86400 + moment.clock.second

/-- The time a number of seconds after the start of 1970. -/
def ofSeconds? (seconds : Int) : Option DateTime := do
  let date ← Date.ofNumber? (seconds / 86400 + epochDay)
  return ⟨date, {
    second := (seconds % 86400).toNat
    nano := 0
    second_lt := by omega
    nano_lt := by decide
    leap_end := by omega }⟩

/-- The instant at which clocks at some offset show a time. Offsets are whole minutes, so a leap second
stays at the end of its minute. -/
def atOffset? (shown : DateTime) (offset : Offset) : Option Instant := do
  let second : Int := shown.clock.second - 60 * offset.minutes
  let date ← shown.date.addDays? (second / 86400)
  return ⟨date, {
    second := (second % 86400).toNat
    nano := shown.clock.nano
    second_lt := by omega
    nano_lt := shown.clock.nano_lt
    leap_end := by
      intro h
      have := shown.clock.leap_end h
      omega }⟩

/-- The time some milliseconds after the start of the second that a time lies in. -/
def addMillis? (start : DateTime) (millis : Nat) : Option DateTime := do
  let total := start.clock.second * 1000 + millis
  let date ← start.date.addDays? (total / 86400000 : Nat)
  return ⟨date, {
    second := total / 1000 % 86400
    nano := total % 1000 * 1000000
    second_lt := by omega
    nano_lt := by omega
    leap_end := by omega }⟩

end DateTime

/-- A year with at least four digits; outside the years 0 to 9999 it has a sign. -/
def yearText (year : Int) : List Char :=
  if 0 ≤ year && year ≤ 9999 then paddedText 4 year.natAbs
  else (if year < 0 then '-' else '+') :: paddedText 4 year.natAbs

def Date.text (date : Date) : List Char :=
  yearText date.year ++ '-' :: paddedText 2 date.month ++ '-' :: paddedText 2 date.day

/-- A time of day with some places behind the second; what lies beyond them is cut off. -/
def Clock.text (clock : Clock) (places : Nat) : List Char :=
  paddedText 2 clock.hour ++ ':' :: paddedText 2 clock.minute ++
    ':' :: paddedText 2 clock.shownSecond ++
    '.' :: paddedText places (clock.shownNano / Nat.pow 10 (9 - places))

/-- An instant with some places behind the second, at most nine. -/
def DateTime.text (instant : Instant) (places : Nat) : List Char :=
  instant.date.text ++ 'T' :: instant.clock.text places ++ ['Z']

/-- An instant with milliseconds, as entries show it. -/
def DateTime.millisText (instant : Instant) : String :=
  String.ofList (instant.text 3)

end LogIngest.Calendar

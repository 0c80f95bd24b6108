import LogIngest.Calendar.Components

/-!
The date, time and offset that components make up. Components beyond those needed are checked against
the result.
-/

namespace LogIngest.Calendar

/-- The year told by a whole year, a century and a year of the century. A year of the century alone is
one of the years from 1970 on. -/
def resolveYear (year century low : Option Int) : Except Fault (Option Int) :=
  match year, century, low with
  | _, none, none => .ok year
  | some y, _, _ =>
    if y < 0 then .error .conflict
    else if century.getD (y / 100) == y / 100 && low.getD (y % 100) == y % 100 then
      .ok (some y)
    else .error .conflict
  | none, some c, some r =>
    let y := c * 100 + r
    if 2147483647 < y then .error .outOfRange else .ok (some y)
  | none, none, some r => .ok (some (r + if r < 70 then 2000 else 1900))
  | none, some _, none => .error .missing

namespace Components

variable (components : Components)

/-- Whether a component is unknown or has the given value. -/
def fits (part : Part) (value : Int) : Bool :=
  (components.get part).getD value == value

/-- Whether century and year of the century are unknown or those of the given year. Years before the
year zero have none. -/
def fitsCentury (year : Int) : Bool :=
  if 0 ≤ year then
    components.fits .century (year / 100) && components.fits .yearOfCentury (year % 100)
  else (components.get .century).isNone && (components.get .yearOfCentury).isNone

/-- Whether year, month and day are unknown or those of a date. -/
def fitsCivil (date : Date) : Bool :=
  components.fits .year date.year && components.fitsCentury date.year &&
    components.fits .month date.month && components.fits .day date.day

/-- Whether the week of its own year and the weekday are unknown or those of a date. -/
def fitsIsoWeek (date : Date) : Bool :=
  let (isoYear, isoWeek) := date.isoWeek
  let yearFits :=
    if 0 ≤ isoYear then components.fits .isoYearOfCentury (isoYear % 100)
    else (components.get .isoYearOfCentury).isNone
  components.fits .isoYear isoYear && yearFits && components.fits .isoWeek isoWeek &&
    components.fits .weekday date.weekday.val

/-- Whether the day and the weeks of the year are unknown or those of a date. -/
def fitsOrdinal (date : Date) : Bool :=
  components.fits .ordinal date.ordinal && components.fits .weekFromSunday (date.weekFrom .sunday) &&
    components.fits .weekFromMonday (date.weekFrom .monday)

/-- A date that has to exist. -/
def existing : Option Date → Except Fault Date
  | some date => .ok date
  | none => .error .outOfRange

/-- The date of a week of a year that does not follow the weeks of its Thursdays. -/
def weekDate (year week weekday : Int) (start : Weekday) : Except Fault Date := do
  let _ ← existing (Date.ofOrdinal? year 1)
  match Date.ofWeek? year week.toNat (.ofNat weekday.toNat) start with
  | some date => return date
  | none => throw .conflict

/-- The date that the first sufficient set of components determines, and whether the others fit it: the
day of a month, the day of a year, a week and weekday. -/
def candidate (year isoYear : Option Int) : Except Fault (Date × Bool) := do
  let get := components.get
  match year, get .month, get .day with
  | some year, some month, some day =>
    let date ← existing (Date.of? year month.toNat day.toNat)
    return (date, components.fitsIsoWeek date && components.fitsOrdinal date)
  | _, _, _ =>
  let fitsAll (date : Date) : Bool :=
    components.fitsCivil date && components.fitsIsoWeek date && components.fitsOrdinal date
  match year, get .ordinal with
  | some year, some ordinal =>
    let date ← existing (Date.ofOrdinal? year ordinal.toNat)
    return (date, fitsAll date)
  | _, _ =>
  match year, get .weekFromSunday, get .weekday with
  | some year, some week, some weekday =>
    let date ← weekDate year week weekday .sunday
    return (date, fitsAll date)
  | _, _, _ =>
  match year, get .weekFromMonday, get .weekday with
  | some year, some week, some weekday =>
    let date ← weekDate year week weekday .monday
    return (date, fitsAll date)
  | _, _, _ =>
  match isoYear, get .isoWeek, get .weekday with
  | some isoYear, some week, some weekday =>
    let date ← existing (Date.ofIsoWeek? isoYear week.toNat (.ofNat weekday.toNat))
    return (date, components.fitsCivil date && components.fitsOrdinal date)
  | _, _, _ => throw .missing

/-- The date that the components make up. -/
def toDate : Except Fault Date := do
  let get := components.get
  let year ← resolveYear (get .year) (get .century) (get .yearOfCentury)
  let isoYear ← resolveYear (get .isoYear) none (get .isoYearOfCentury)
  let (date, fits) ← components.candidate year isoYear
  if fits && components.fits .quarter date.quarter then return date else throw .conflict

/-- A component that has to be known. -/
def need (part : Part) : Except Fault Int :=
  match components.get part with
  | some value => .ok value
  | none => .error .missing

/-- The time of day that the components make up. Seconds may be missing if nothing finer is known. -/
def toClock : Except Fault Clock := do
  let half ← components.need .half
  let hour ← components.need .hourOfHalf
  let minute ← components.need .minute
  let nano ← match components.get .second, components.get .nano with
    | none, some _ => throw .missing
    | _, nano => pure (nano.getD 0)
  let second := (components.get .second).getD 0
  match Clock.of? (half * 12 + hour).toNat minute.toNat second.toNat nano.toNat with
  | some clock => return clock
  | none => throw .outOfRange

/-- Adds what a count of seconds since 1970 tells: year, day of the year, hour, minute and second. A
leap second counts as the second before it or after it. -/
def withStamp (stamp : Int) : Except Fault Components := do
  let moment (seconds : Int) : Except Fault DateTime :=
    match DateTime.ofSeconds? seconds with
    | some moment => .ok moment
    | none => .error .outOfRange
  let first ← moment stamp
  let secondOfMinute := first.clock.second % 60
  let (known, told) ←
    if components.get .second == some 60 then
      if secondOfMinute == 59 then pure (components, first)
      else if secondOfMinute == 0 then pure (components, ← moment (stamp - 1))
      else throw .conflict
    else pure (← components.set .second secondOfMinute, first)
  let known ← known.set .year told.date.year
  let known ← known.set .ordinal told.date.ordinal
  let known ← known.setHour told.clock.hour
  known.set .minute told.clock.minute

/-- The date and time that the components make up, or, where they do not suffice, a count of seconds
since 1970 with them. -/
def toDateTime : Except Fault DateTime :=
  match components.toDate, components.toClock, components.get .stamp with
  | .ok date, .ok clock, none => .ok ⟨date, clock⟩
  | .ok date, .ok clock, some stamp =>
    let moment : DateTime := ⟨date, clock⟩
    if stamp == moment.seconds || (clock.isLeap && stamp == moment.seconds + 1) then .ok moment
    else .error .conflict
  | date, clock, none => do return ⟨← date, ← clock⟩
  | .error .outOfRange, _, _ | _, .error .outOfRange, _ => .error .outOfRange
  | .error .conflict, _, _ | _, .error .conflict, _ => .error .conflict
  | _, _, some stamp => do
    let known ← components.withStamp stamp
    return ⟨← known.toDate, ← known.toClock⟩

/-- The offset that the components tell. -/
def toOffset : Except Fault Offset := do
  match Offset.ofMinutes? (← components.need .offset) with
  | some offset => return offset
  | none => throw .outOfRange

end Components
end LogIngest.Calendar

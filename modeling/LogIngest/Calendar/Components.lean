import LogIngest.Calendar.DateTime

/-!
The components of a date and time that a text supplies: numbers of the year, month, day and so on, of
which a text may give some, others, or several that have to agree.
-/

namespace LogIngest.Calendar

/-- Why components cannot be taken or do not make up a date or time. -/
inductive Fault where
  /-- The text has another form than the layout. -/
  | mismatch
  /-- A number lies outside its range. -/
  | outOfRange
  /-- Components contradict each other. -/
  | conflict
  /-- Components are missing. -/
  | missing
deriving DecidableEq, Repr

/-- What a component tells. Years are given whole, or as centuries and the year within the century;
hours as the half of the day and the hour within the half. -/
inductive Part where
  | year | century | yearOfCentury
  | isoYear | isoYearOfCentury
  | quarter | month | day | ordinal
  | weekFromSunday | weekFromMonday | isoWeek | weekday
  | half | hourOfHalf | minute | second | nano
  | stamp | offset
deriving DecidableEq, Repr

namespace Part

/-- The least and the greatest value. -/
def range : Part → Int × Int
  | year | isoYear | offset => (-2147483648, 2147483647)
  | century => (0, 2147483647)
  | yearOfCentury | isoYearOfCentury => (0, 99)
  | quarter => (1, 4)
  | month => (1, 12)
  | day => (1, 31)
  | ordinal => (1, 366)
  | weekFromSunday | weekFromMonday => (0, 53)
  | isoWeek => (1, 53)
  | weekday => (0, 6)
  | half => (0, 1)
  | hourOfHalf => (0, 11)
  | minute => (0, 59)
  | second => (0, 60)
  | nano => (0, 999999999)
  | stamp => (-9223372036854775808, 9223372036854775807)

end Part

/-- The components known so far. -/
structure Components where
  get : Part → Option Int

namespace Components

/-- No component is known. -/
def unknown : Components where
  get _ := none

/-- Adds a component. It has to be in range, and to agree with what is known already. -/
def set (components : Components) (part : Part) (value : Int) : Except Fault Components :=
  if value < part.range.1 || part.range.2 < value then .error .outOfRange
  else match components.get part with
    | some known => if known == value then .ok components else .error .conflict
    | none => .ok ⟨fun p => if p = part then some value else components.get p⟩

/-- Adds the hour of a day of twenty-four hours. -/
def setHour (components : Components) (hour : Int) : Except Fault Components := do
  if hour < 0 || 23 < hour then throw .outOfRange
  (← components.set .half (hour / 12)).set .hourOfHalf (hour % 12)

/-- Adds the hour of a half day, in which twelve comes before one. -/
def setHourOfHalf (components : Components) (hour : Int) : Except Fault Components :=
  if hour < 1 || 12 < hour then .error .outOfRange else components.set .hourOfHalf (hour % 12)

end Components
end LogIngest.Calendar

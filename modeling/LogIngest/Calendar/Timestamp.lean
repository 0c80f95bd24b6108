import LogIngest.Calendar.DateTime
import LogIngest.Calendar.Resolution
import LogIngest.Calendar.Scan

/-!
The timestamps of entries: a date and a time with milliseconds, in universal time.
-/

namespace LogIngest.Calendar.Timestamp

/-- The items of a timestamp. -/
def items : List Item :=
  [.number .year, .literal '-', .number .month, .literal '-', .number .day, .literal 'T',
    .number .hour, .literal ':', .number .minute, .literal ':', .number .second, .literal '.',
    .places 3, .literal 'Z']

/-- The form of timestamps, as messages describe it. -/
def description : String := "yyyy-MM-dd'T'HH:mm:ss.SSS'Z'"

/-- Reads a timestamp, which may have white space around it. -/
def read? (text : List Char) : Option Instant :=
  (do (← Item.scan items (Text.trim text)).toDateTime : Except Fault Instant).toOption

end LogIngest.Calendar.Timestamp

namespace LogIngest.Calendar.Item

/-- The text of an item for a time. None for items that only readers use. -/
def write? (item : Item) (moment : DateTime) : Option (List Char) :=
  match item with
  | number .year => some (yearText moment.date.year)
  | number .month => some (paddedText 2 moment.date.month)
  | number .day => some (paddedText 2 moment.date.day)
  | number .hour => some (paddedText 2 moment.clock.hour)
  | number .minute => some (paddedText 2 moment.clock.minute)
  | number .second => some (paddedText 2 moment.clock.shownSecond)
  | places count => some (paddedText count (moment.clock.shownNano / Nat.pow 10 (9 - count)))
  | literal c => some [c]
  | _ => none

end LogIngest.Calendar.Item

namespace LogIngest.Calendar.Timestamp

/-- Writes a timestamp. -/
def write (moment : Instant) : String :=
  String.ofList ((items.filterMap (·.write? moment)).flatten)

end LogIngest.Calendar.Timestamp

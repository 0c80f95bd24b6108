import LogIngest.Calendar.Layout
import LogIngest.Calendar.Resolution
import LogIngest.Calendar.Scan
import LogIngest.Calendar.Timezone

/-!
Date formats: a layout, compiled once, by which texts are read as instants.
-/

namespace LogIngest

open Calendar

/-- A compiled date format. -/
structure DateFormat where
  /-- The pattern it was compiled from. -/
  pattern : String
  items : List Item
  supply : Supply
  /-- Whether the digits behind the second count milliseconds. -/
  millis : Bool
  /-- The zone of texts without one. -/
  zone : Offset

namespace DateFormat

/-- The format of fields for which none is configured. -/
def standardPattern : String := "yyyy-MM-dd'T'HH:mm:ssZ"

/-- The layout of a pattern, and whether it reads milliseconds. A pattern with a percent sign is a
layout already. -/
def layoutOf (pattern : List Char) : Except LayoutFault (List Char × Bool) :=
  if pattern.contains '%' then .ok (pattern, false) else Layout.ofPattern pattern

/-- The items of a layout and what they supply. -/
def compile (layout : List Char) : Except LayoutFault (List Item × Supply) :=
  match Item.ofLayout? layout with
  | none => .error .unknownSpecifier
  | some items =>
    let supply := Supply.ofLayout layout
    if supply.any then .ok (items, supply) else .error .noComponent

/-- Compiles a pattern of a configuration. The zone applies to texts that name none. -/
def ofPattern (pattern : String) (zone : Option String) : Except SetupError DateFormat := do
  let invalid (fault : LayoutFault) : SetupError := .invalidDateFormat pattern fault.message
  let (layout, millis) ← (layoutOf pattern.toList).mapError invalid
  let (items, supply) ← (compile layout).mapError invalid
  let zone ← match zone with
    | some specifier => Timezone.ofSpecifier specifier
    | none => pure .zero
  return { pattern, items, supply, millis, zone }

/-- Sets a component that the layout does not supply. -/
def fill (components : Components) (supplied : Bool) (part : Part) (value : Int) :
    Except Fault Components :=
  if supplied then .ok components else components.set part value

/-- Adds the components that the layout does not supply: the first of January 1970 at midnight, and the
first half of the day. -/
def complete (supply : Supply) (components : Components) : Except Fault Components := do
  let known ← fill components supply.year .year 1970
  let known ← fill known (supply.ordinal || supply.month) .month 1
  let known ← fill known (supply.ordinal || supply.day) .day 1
  let known ← fill known (!supply.hourOfHalf || supply.half) .half 0
  let known ← if supply.hour || supply.hourOfHalf then pure known else known.setHour 0
  let known ← fill known supply.minute .minute 0
  fill known supply.second .second 0

/-- The time that complete components show. -/
def shownTime (millis : Bool) (components : Components) : Except Fault DateTime := do
  let shown : DateTime := ⟨← components.toDate, ← components.toClock⟩
  match components.get .nano with
  | some count =>
    if millis then
      match shown.addMillis? count.toNat with
      | some shown => return shown
      | none => throw .outOfRange
    else return shown
  | none => return shown

/-- The instant that the components of a text denote. A count of seconds denotes one by itself. -/
def resolve (format : DateFormat) (components : Components) : Except Fault Instant := do
  if format.supply.stamp then components.toDateTime
  else
    let known ← complete format.supply components
    let shown ← shownTime format.millis known
    let offset ← if format.supply.zone then known.toOffset else pure format.zone
    match shown.atOffset? offset with
    | some instant => return instant
    | none => throw .outOfRange

/-- The text without white space around it; where a zone is read, a Z at its end is written as an
offset. -/
def normalize (supply : Supply) (text : List Char) : List Char :=
  let text := Text.trim text
  if supply.zone && text.getLast? == some 'Z' then text.dropLast ++ "+0000".toList else text

/-- Reads a text by the format. -/
def read? (format : DateFormat) (text : List Char) : Option Instant :=
  (Item.scan format.items (normalize format.supply text) >>= format.resolve).toOption

/-- Reads the text of a field by the format. -/
def read (format : DateFormat) (text : String) : Except FieldError Instant :=
  match format.read? text.toList with
  | some instant => .ok instant
  | none => .error (.invalidDate text format.pattern)

end DateFormat
end LogIngest

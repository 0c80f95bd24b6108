import LogIngest.Calendar.DateTime
import LogIngest.Config.Error
import LogIngest.Decimal.Reading
import LogIngest.Text.Blank
import LogIngest.Text.Pieces

/-!
Time zones of configurations: names of universal time, or an offset from it.
-/

namespace LogIngest.Calendar.Timezone

/-- The names of universal time. -/
def universalNames : List String := ["UTC", "GMT", "UT", "Z"]

/-- A number of one or two digits. -/
def shortNumber? (digits : List Char) : Option Nat :=
  if (digits.length == 1 || digits.length == 2) && digits.all Char.isDigit then
    some (digitsValue digits)
  else none

/-- The hours and minutes of an offset: separated by a colon, as two halves of four bytes, or hours alone. -/
def hoursAndMinutes (text : List Char) : Except Text.CutFault (List Char × List Char) :=
  match text.dropWhile (· != ':') with
  | _ :: minutes => .ok (text.takeWhile (· != ':'), minutes)
  | [] => if Text.byteSize text == 4 then Text.cut 2 text else .ok (text, ['0'])

/-- The offset of two numbers, up to eighteen hours and fifty-nine minutes. -/
def ofNumbers? (negative : Bool) (hours minutes : List Char) : Option Offset := do
  let hours ← shortNumber? hours
  let minutes ← shortNumber? minutes
  if 18 < hours || 59 < minutes then none
  else
    let total : Int := (hours * 60 + minutes : Nat)
    Offset.ofMinutes? (if negative then -total else total)

/-- The offset that a text behind a sign gives. -/
def ofMagnitude (negative : Bool) (text : List Char) : Except Text.CutFault (Option Offset) :=
  (hoursAndMinutes text).map fun (hours, minutes) => ofNumbers? negative hours minutes

/-- The text behind the name that an offset may start with. -/
def dropName (text : List Char) : List Char :=
  if "UTC".toList.isPrefixOf text || "GMT".toList.isPrefixOf text then text.drop 3 else text

/-- The offset of a specifier in any case. -/
def read (specifier : List Char) : Except Text.CutFault (Option Offset) :=
  let text := (Text.trim specifier).map Char.toUpper
  if universalNames.contains (String.ofList text) then .ok (some .zero)
  else match dropName text with
    | '+' :: rest => ofMagnitude false rest
    | '-' :: rest => ofMagnitude true rest
    | _ => .ok none

/-- Reads the specifier of a configuration. -/
def ofSpecifier (specifier : String) : Except SetupError Offset :=
  match read specifier.toList with
  | .ok (some offset) => .ok offset
  | .ok none => .error (.invalidTimezone specifier)
  | .error fault => .error (.invalidTimezone specifier (some fault))

end LogIngest.Calendar.Timezone

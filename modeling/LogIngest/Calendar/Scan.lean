import LogIngest.Calendar.Item
import LogIngest.Decimal.Numeral

/-!
Reading a text by the items of a layout. The items take the text from left to right, without ever going
back.
-/

namespace LogIngest.Calendar

/-- The components known and the text not yet taken. -/
structure Progress where
  components : Components
  rest : List Char

/-- Takes a run of digits, at least `least` and at most `most` of them, and stops at the first
character that is none. -/
def takeNumber (least : Nat) (most : Option Nat) (text : List Char) :
    Except Fault (Nat × List Char) :=
  let run := text.takeWhile Char.isDigit
  let digits := match most with
    | some most => run.take most
    | none => run
  if digits.length < least then .error .mismatch
  else
    let value := digitsValue digits
    if Bounds.int64.greatest < value then .error .outOfRange else .ok (value, text.drop digits.length)

namespace Numeric

/-- The greatest number of digits; none when there is no limit. -/
def width? : Numeric → Option Nat
  | year | isoYear => some 4
  | ordinal => some 3
  | nano => some 9
  | quarter | weekdayFromSunday | weekdayFromMonday => some 1
  | stamp => none
  | _ => some 2

/-- Whether the number may have a sign. A signed number has any number of digits. -/
def isSigned : Numeric → Bool
  | year | isoYear => true
  | _ => false

/-- Adds the component that the number tells. -/
def store (numeric : Numeric) (value : Int) (components : Components) : Except Fault Components :=
  match numeric with
  | year => components.set .year value
  | century => components.set .century value
  | yearOfCentury => components.set .yearOfCentury value
  | isoYear => components.set .isoYear value
  | isoYearOfCentury => components.set .isoYearOfCentury value
  | quarter => components.set .quarter value
  | month => components.set .month value
  | day => components.set .day value
  | ordinal => components.set .ordinal value
  | weekFromSunday => components.set .weekFromSunday value
  | weekFromMonday => components.set .weekFromMonday value
  | isoWeek => components.set .isoWeek value
  | weekdayFromSunday =>
    if 6 < value then .error .outOfRange else components.set .weekday ((value + 6) % 7)
  | weekdayFromMonday => components.set .weekday (value - 1)
  | hour => components.setHour value
  | hourOfHalf => components.setHourOfHalf value
  | minute => components.set .minute value
  | second => components.set .second value
  | nano => components.set .nano value
  | stamp => components.set .stamp value

/-- Takes the number behind any white space. -/
def take (numeric : Numeric) (text : List Char) : Except Fault (Int × List Char) :=
  let plain (most : Option Nat) (negative : Bool) (text : List Char) :
      Except Fault (Int × List Char) :=
    (takeNumber 1 most text).map fun (n, rest) => (if negative then -n else n, rest)
  match Text.trimStart text with
  | '-' :: rest =>
    if numeric.isSigned then plain none true rest else .error .mismatch
  | '+' :: rest =>
    if numeric.isSigned then plain none false rest else .error .mismatch
  | text => plain numeric.width? false text

end Numeric

/-- The names of the months: three letters, and the letters that follow in the long form. -/
def monthNames : List (String × String) :=
  [("jan", "uary"), ("feb", "ruary"), ("mar", "ch"), ("apr", "il"), ("may", ""), ("jun", "e"),
    ("jul", "y"), ("aug", "ust"), ("sep", "tember"), ("oct", "ober"), ("nov", "ember"),
    ("dec", "ember")]

/-- The names of the weekdays from Monday on. -/
def weekdayNames : List (String × String) :=
  [("mon", "day"), ("tue", "sday"), ("wed", "nesday"), ("thu", "rsday"), ("fri", "day"),
    ("sat", "urday"), ("sun", "day")]

/-- The text behind some letters at its start, which may be in either case. -/
def dropLetters? (letters : String) (text : List Char) : Option (List Char) :=
  let size := letters.toList.length
  if (text.take size).map Char.toLower == letters.toList then some (text.drop size) else none

/-- Takes a name of a list, and gives its place. The long form is taken as far as it goes. -/
def takeName (names : List (String × String)) (long : Bool) (text : List Char) :
    Except Fault (Nat × List Char) :=
  match names.findIdx? fun (short, _) => (dropLetters? short text).isSome with
  | none => .error .mismatch
  | some place =>
    let (short, remainder) := names.getD place ("", "")
    let rest := (dropLetters? short text).getD text
    .ok (place, if long then (dropLetters? remainder rest).getD rest else rest)

/-- Takes the half of the day, which is one in the afternoon. -/
def takeHalf (text : List Char) : Except Fault (Nat × List Char) :=
  match dropLetters? "am" text, dropLetters? "pm" text with
  | some rest, _ => .ok (0, rest)
  | none, some rest => .ok (1, rest)
  | none, none => .error .mismatch

/-- Takes digits behind a point as nanoseconds; beyond nine they are passed over. -/
def takeFraction (text : List Char) : Except Fault (Nat × List Char) := do
  let (value, rest) ← takeNumber 1 (some 9) text
  let count := text.length - rest.length
  return (value * Nat.pow 10 (9 - count), rest.dropWhile Char.isDigit)

/-- The two digits at the start of a text. -/
def takePair? : List Char → Option (Nat × Nat × List Char)
  | a :: b :: rest => do
    let a ← digitValue? a
    let b ← digitValue? b
    some (a, b, rest)
  | _ => none

/-- The sign of an offset: true when it is negative. -/
def takeSign? : List Char → Option (Bool × List Char)
  | '+' :: rest => some (false, rest)
  | '-' :: rest | '\u2212' :: rest => some (true, rest)
  | _ => none

/-- Takes a sign, two digits of hours and two of minutes, with any colons and white space between
them, as minutes. -/
def takeSignedOffset (minutesOptional : Bool) (text : List Char) :
    Except Fault (Int × List Char) :=
  match takeSign? text with
  | none => .error .mismatch
  | some (negative, rest) =>
    match takePair? rest with
    | none => .error .mismatch
    | some (h₁, h₂, rest) =>
      let hours := h₁ * 10 + h₂
      let total (minutes : Nat) : Int :=
        let magnitude : Int := (hours * 60 + minutes : Nat)
        if negative then -magnitude else magnitude
      let rest := rest.dropWhile fun c => c == ':' || Text.isBlankChar c
      match takePair? rest with
      | some (m₁, m₂, after) =>
        if 5 < m₁ then .error .outOfRange else .ok (total (m₁ * 10 + m₂), after)
      | none =>
        if minutesOptional && rest.isEmpty then .ok (total 0, []) else .error .mismatch

/-- Takes an offset in minutes. -/
def takeOffset (form : OffsetForm) (text : List Char) : Except Fault (Int × List Char) :=
  match form with
  | .full => takeSignedOffset false (Text.trimStart text)
  | .lenient =>
    match dropLetters? "z" (Text.trimStart text) with
    | some rest => .ok (0, rest)
    | none => takeSignedOffset true (Text.trimStart text)
  | .named =>
    match dropLetters? "utc" text <|> dropLetters? "z" text with
    | some rest => .ok (0, rest)
    | none => takeSignedOffset false text

namespace Item

/-- Adds a component to what is known and goes on with the text behind it. -/
def advance (progress : Progress) (part : Part) (taken : Except Fault (Int × List Char)) :
    Except Fault Progress := do
  let (value, rest) ← taken
  return ⟨← progress.components.set part value, rest⟩

/-- A natural number as a component, moved by `shift`. -/
def shifted (shift : Nat) (taken : Except Fault (Nat × List Char)) :
    Except Fault (Int × List Char) :=
  taken.map fun (n, rest) => ((n + shift : Nat), rest)

/-- Takes the item from the start of the text. -/
def take (item : Item) (progress : Progress) : Except Fault Progress :=
  let text := progress.rest
  match item with
  | space => .ok { progress with rest := Text.trimStart text }
  | literal c =>
    match text with
    | d :: rest => if d == c then .ok { progress with rest := rest } else .error .mismatch
    | [] => .error .mismatch
  | number numeric => do
    let (value, rest) ← numeric.take text
    return ⟨← numeric.store value progress.components, rest⟩
  | monthName long => advance progress .month (shifted 1 (takeName monthNames long text))
  | weekdayName long => advance progress .weekday (shifted 0 (takeName weekdayNames long text))
  | half => advance progress .half (shifted 0 (takeHalf text))
  | fraction =>
    match text with
    | '.' :: digits => advance progress .nano (shifted 0 (takeFraction digits))
    | _ => .ok progress
  | places count =>
    advance progress .nano <| (takeNumber count (some count) text).map fun (n, rest) =>
      ((n * Nat.pow 10 (9 - count) : Nat), rest)
  | offset form => advance progress .offset (takeOffset form text)
  | zoneName => .ok { progress with rest := text.dropWhile fun c => !Text.isBlankChar c }
  | separator =>
    match text with
    | 't' :: rest | 'T' :: rest | ' ' :: rest => .ok { progress with rest := rest }
    | _ => .error .mismatch

/-- Takes items one after another. -/
def takeAll (items : List Item) (progress : Progress) : Except Fault Progress :=
  items.foldlM (fun progress item => item.take progress) progress

/-- The components of a text that the items take completely. -/
def scan (items : List Item) (text : List Char) : Except Fault Components := do
  let progress ← takeAll items ⟨.unknown, text⟩
  if progress.rest.isEmpty then return progress.components else throw .mismatch

end Item
end LogIngest.Calendar

import LogIngest.Calendar.Components
import LogIngest.Text.Blank

/-!
The items that a date layout is made of. A layout is a text in which a percent sign and the letters
behind it stand for a component.
-/

namespace LogIngest.Calendar

/-- The components written as numbers. -/
inductive Numeric where
  | year | century | yearOfCentury
  | isoYear | isoYearOfCentury
  | quarter | month | day | ordinal
  | weekFromSunday | weekFromMonday | isoWeek
  /-- The weekday counted from Sunday, which is zero, or from Monday, which is one. -/
  | weekdayFromSunday | weekdayFromMonday
  | hour | hourOfHalf | minute | second | nano
  | stamp
deriving DecidableEq, Repr

/-- How the distance from universal time may be written. -/
inductive OffsetForm where
  /-- A sign, hours and minutes. -/
  | full
  /-- The minutes may be left out, and the letter Z means universal time. -/
  | lenient
  /-- Universal time may be named by Z or UTC. -/
  | named
deriving DecidableEq, Repr

inductive Item where
  /-- Any amount of white space, including none. -/
  | space
  | literal (c : Char)
  | number (n : Numeric)
  /-- The name of a month, short or, if allowed, long. -/
  | monthName (long : Bool)
  | weekdayName (long : Bool)
  /-- The half of the day. -/
  | half
  /-- A point and digits behind it, or nothing. -/
  | fraction
  /-- A fixed number of digits behind the second. -/
  | places (count : Nat)
  | offset (form : OffsetForm)
  /-- The name of a zone, which says nothing. -/
  | zoneName
  /-- What separates a date from a time: the letter T or a space. -/
  | separator
deriving DecidableEq, Repr

namespace Item

def date : List Item :=
  [.number .month, .literal '/', .number .day, .literal '/', .number .yearOfCentury]

def isoDate : List Item :=
  [.number .year, .literal '-', .number .month, .literal '-', .number .day]

def hourMinute : List Item :=
  [.number .hour, .literal ':', .number .minute]

def time : List Item :=
  hourMinute ++ [.literal ':', .number .second]

/-- A date and time in words, in the order of the parts of a letter head. -/
def dateTime : List Item :=
  [.weekdayName false, .space, .monthName false, .space, .number .day, .space] ++ time ++
    [.space, .number .year]

/-- A date, a time and an offset as in records meant for machines, with white space allowed between the
parts. -/
def record : List Item :=
  [.number .year, .space, .literal '-', .number .month, .space, .literal '-', .number .day,
    .separator,
    .number .hour, .space, .literal ':', .number .minute, .space, .literal ':', .number .second,
    .fraction, .space, .space, .offset .named]

/-- The items that a letter behind a percent sign stands for. -/
def ofLetter? : Char → Option (List Item)
  | 'A' => some [.weekdayName true]
  | 'B' => some [.monthName true]
  | 'C' => some [.number .century]
  | 'D' | 'x' => some date
  | 'F' => some isoDate
  | 'G' => some [.number .isoYear]
  | 'H' | 'k' => some [.number .hour]
  | 'I' | 'l' => some [.number .hourOfHalf]
  | 'M' => some [.number .minute]
  | 'P' | 'p' => some [.half]
  | 'R' => some hourMinute
  | 'S' => some [.number .second]
  | 'T' | 'X' => some time
  | 'U' => some [.number .weekFromSunday]
  | 'V' => some [.number .isoWeek]
  | 'W' => some [.number .weekFromMonday]
  | 'Y' => some [.number .year]
  | 'Z' => some [.zoneName]
  | 'a' => some [.weekdayName false]
  | 'b' | 'h' => some [.monthName false]
  | 'c' => some dateTime
  | 'd' | 'e' => some [.number .day]
  | 'f' => some [.number .nano]
  | 'g' => some [.number .isoYearOfCentury]
  | 'j' => some [.number .ordinal]
  | 'm' => some [.number .month]
  | 'n' | 't' => some [.space]
  | 'q' => some [.number .quarter]
  | 'r' =>
    some [.number .hourOfHalf, .literal ':', .number .minute, .literal ':', .number .second,
      .space, .half]
  | 's' => some [.number .stamp]
  | 'u' => some [.number .weekdayFromMonday]
  | 'v' => some [.number .day, .literal '-', .monthName false, .literal '-', .number .year]
  | 'w' => some [.number .weekdayFromSunday]
  | 'y' => some [.number .yearOfCentury]
  | 'z' => some [.offset .full]
  | '+' => some record
  | '%' => some [.literal '%']
  | _ => none

/-- Whether items are one number, which alone may have a padding mark. -/
def isNumber : List Item → Bool
  | [.number _] => true
  | _ => false

/-- The items that a text behind a percent sign starts with, and the number of its characters that
they take. -/
def ofSpecifier? : List Char → Option (List Item × Nat)
  | ':' :: ':' :: ':' :: 'z' :: _ => some ([.offset .full], 4)
  | ':' :: ':' :: 'z' :: _ => some ([.offset .full], 3)
  | ':' :: 'z' :: _ => some ([.offset .full], 2)
  | '#' :: 'z' :: _ => some ([.offset .lenient], 2)
  | '.' :: 'f' :: _ => some ([.fraction], 2)
  | '.' :: '3' :: 'f' :: _ | '.' :: '6' :: 'f' :: _ | '.' :: '9' :: 'f' :: _ =>
    some ([.fraction], 3)
  | '3' :: 'f' :: _ => some ([.places 3], 2)
  | '6' :: 'f' :: _ => some ([.places 6], 2)
  | '9' :: 'f' :: _ => some ([.places 9], 2)
  | '-' :: c :: _ | '0' :: c :: _ | '_' :: c :: _ =>
    match ofLetter? c with
    | some items => if isNumber items then some (items, 2) else none
    | none => none
  | c :: _ => (ofLetter? c).map (·, 1)
  | [] => none

/-- The items of a layout, of which the first `skip` characters have been taken. None when a percent
sign stands before something else than a specifier. -/
def ofLayoutFrom? : (skip : Nat) → List Char → Option (List Item)
  | _, [] => some []
  | skip + 1, _ :: rest => ofLayoutFrom? skip rest
  | 0, c :: rest =>
    if c == '%' then
      match ofSpecifier? rest with
      | none => none
      | some (items, count) => (ofLayoutFrom? count rest).map (items ++ ·)
    else
      let item := if Text.isBlankChar c then .space else .literal c
      (ofLayoutFrom? 0 rest).map (item :: ·)

/-- The items of a layout. -/
def ofLayout? (layout : List Char) : Option (List Item) :=
  ofLayoutFrom? 0 layout

end Item
end LogIngest.Calendar

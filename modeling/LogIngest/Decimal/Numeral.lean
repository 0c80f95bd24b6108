/-!
Digits, and whole numbers written in decimal: how they are read within bounds, and how they are
written.
-/

namespace LogIngest

/-- The value of an ASCII decimal digit. -/
def digitValue? (c : Char) : Option Nat :=
  if c.isDigit then some (c.toNat - '0'.toNat) else none

/-- The value of a hexadecimal digit of either case. -/
def hexValue? (c : Char) : Option Nat :=
  if c.isDigit then some (c.toNat - '0'.toNat)
  else if 'a' ≤ c && c ≤ 'f' then some (c.toNat - 'a'.toNat + 10)
  else if 'A' ≤ c && c ≤ 'F' then some (c.toNat - 'A'.toNat + 10)
  else none

/-- Why a text is no whole number within the bounds asked for. -/
inductive NumeralFault where
  | empty
  | invalidDigit
  | tooLarge
  | tooSmall
deriving DecidableEq, Repr

namespace NumeralFault

def message : NumeralFault → String
  | empty => "cannot parse integer from empty string"
  | invalidDigit => "invalid digit found in string"
  | tooLarge => "number too large to fit in target type"
  | tooSmall => "number too small to fit in target type"

end NumeralFault

/-- The least and the greatest whole number that a place can hold. -/
structure Bounds where
  least : Int
  greatest : Int
deriving DecidableEq, Repr

namespace Bounds

def byte : Bounds := ⟨0, 255⟩
def int32 : Bounds := ⟨-2147483648, 2147483647⟩
def int64 : Bounds := ⟨-9223372036854775808, 9223372036854775807⟩
def word64 : Bounds := ⟨0, 18446744073709551615⟩

/-- Whether a number lies within the bounds. -/
def admits (bounds : Bounds) (n : Int) : Bool :=
  bounds.least ≤ n && n ≤ bounds.greatest

/-- Reads the digits after a plus sign or no sign, first digit first, and stops at the first
character that is no digit or carries the number over the upper bound. -/
def readUp (bounds : Bounds) (value : Int) : List Char → Except NumeralFault Int
  | [] => .ok value
  | c :: rest =>
    match digitValue? c with
    | none => .error .invalidDigit
    | some d =>
      let next := 10 * value + d
      if bounds.greatest < next then .error .tooLarge else readUp bounds next rest

/-- Reads the digits after a minus sign, first digit first, and stops at the first character that is
no digit or carries the number below the lower bound. -/
def readDown (bounds : Bounds) (value : Int) : List Char → Except NumeralFault Int
  | [] => .ok value
  | c :: rest =>
    match digitValue? c with
    | none => .error .invalidDigit
    | some d =>
      let next := 10 * value - d
      if next < bounds.least then .error .tooSmall else readDown bounds next rest

/-- Reads a whole number: an optional sign and at least one digit, and nothing else. A minus sign is a
sign only where negative numbers are admitted. -/
def read (bounds : Bounds) (text : List Char) : Except NumeralFault Int :=
  match text with
  | [] => .error .empty
  | ['+'] | ['-'] => .error .invalidDigit
  | '+' :: digits => readUp bounds 0 digits
  | '-' :: digits => if bounds.least < 0 then readDown bounds 0 digits else .error .invalidDigit
  | digits => readUp bounds 0 digits

end Bounds

/-- The value of a run of digits, first digit first; characters that are no digits count nothing. -/
def digitsValue (digits : List Char) : Nat :=
  digits.foldl (fun value c => 10 * value + (digitValue? c).getD 0) 0

/-- The decimal digits of a number without leading zeros. -/
def natText (n : Nat) : List Char :=
  Nat.toDigits 10 n

/-- A whole number in decimal, with a minus sign when it is negative. -/
def intText (n : Int) : List Char :=
  if n < 0 then '-' :: natText n.natAbs else natText n.natAbs

/-- A number in decimal with at least `width` digits. -/
def paddedText (width n : Nat) : List Char :=
  let digits := natText n
  List.replicate (width - digits.length) '0' ++ digits

end LogIngest

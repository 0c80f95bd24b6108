import LogIngest.Decimal.Numeral
import LogIngest.Text.Lowercase

/-!
Doubles read from decimal text: an optional sign, then digits with at most one point among, before or
after them, then an optional exponent; or the name of an infinity or of the absent number.
-/

namespace LogIngest

/-- The double nearest to `digits · 10^exponent`. Values beyond every double are settled by their
number of digits alone, so that no huge power of ten is ever formed. -/
def nearestDouble (digits : Nat) (exponent : Int) : Float :=
  if digits == 0 then 0.0
  else
    let lead := exponent + (natText digits).length
    if 310 < lead then 1.0 / 0.0
    else if lead < -330 then 0.0
    else if 0 ≤ exponent then Float.ofScientific digits false exponent.toNat
    else Float.ofScientific digits true (-exponent).toNat

/-- The digits at the start of a text and what follows them. -/
def takeDigits (text : List Char) : List Char × List Char :=
  (text.takeWhile Char.isDigit, text.dropWhile Char.isDigit)

/-- Reads an exponent to the end of the text: nothing at all, or a mark, an optional sign and at
least one digit. -/
def readExponent? (text : List Char) : Option Int :=
  let magnitude? (digits : List Char) : Option Int :=
    if !digits.isEmpty && digits.all Char.isDigit then some (digitsValue digits) else none
  match text with
  | [] => some 0
  | mark :: rest =>
    if mark == 'e' || mark == 'E' then
      match rest with
      | '+' :: digits => magnitude? digits
      | '-' :: digits => (magnitude? digits).map (- ·)
      | digits => magnitude? digits
    else none

/-- Reads an unsigned number: digits, an optional point and more digits, with at least one digit
altogether, and an optional exponent. -/
def readUnsigned? (text : List Char) : Option Float :=
  let (whole, afterWhole) := takeDigits text
  let (places, rest) := match afterWhole with
    | '.' :: more => takeDigits more
    | _ => ([], afterWhole)
  if whole.isEmpty && places.isEmpty then none
  else
    (readExponent? rest).map fun exponent =>
      nearestDouble (digitsValue (whole ++ places)) (exponent - places.length)

/-- Reads a number without sign, or one of the names `inf`, `infinity` and `nan` in any case. -/
def readMagnitude? (text : List Char) : Option Float :=
  let name := text.map Char.toLower
  if name == "inf".toList || name == "infinity".toList then some (1.0 / 0.0)
  else if name == "nan".toList then some (0.0 / 0.0)
  else readUnsigned? text

/-- Reads a double to the end of the text. -/
def readDouble? (text : List Char) : Option Float :=
  match text with
  | '+' :: rest => readMagnitude? rest
  | '-' :: rest => (readMagnitude? rest).map (- ·)
  | _ => readMagnitude? text

end LogIngest

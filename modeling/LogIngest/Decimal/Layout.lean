import LogIngest.Decimal.Numeral
import LogIngest.Decimal.Shortest

/-!
How a double is laid out as text: by its shortest decimal in one of several conventions, or with a
fixed number of places.
-/

namespace LogIngest

/-- The decisions of a convention for writing doubles by their shortest decimal. -/
structure FloatLayout where
  /-- Which of two equally near shortest decimals is taken. -/
  tie : Tie
  /-- Whether a whole number keeps a point and a zero. -/
  pointZero : Bool
  /-- The least and the greatest exponent of the leading digit written positionally; none when every
  number is. -/
  positional : Option (Int × Int)
deriving Repr

namespace FloatLayout

/-- Plain text never uses an exponent and writes whole numbers without a point. -/
def plain : FloatLayout where
  tie := .up
  pointZero := false
  positional := none

/-- In documents a double is always recognisable as one: it has a point or an exponent. -/
def document : FloatLayout where
  tie := .toEven
  pointZero := true
  positional := some (-5, 15)

/-- The digits of a decimal with the point put in its place. -/
def positionalText (layout : FloatLayout) (d : Decimal) : List Char :=
  let digits := natText d.digits
  if 0 ≤ d.exponent then
    digits ++ List.replicate d.exponent.toNat '0' ++ (if layout.pointZero then ['.', '0'] else [])
  else
    let places := (-d.exponent).toNat
    if places < digits.length then
      digits.take (digits.length - places) ++ '.' :: digits.drop (digits.length - places)
    else
      '0' :: '.' :: (List.replicate (places - digits.length) '0' ++ digits)

/-- The first digit, the other digits after a point, and the exponent with its sign. -/
def exponentText (digits : List Char) (lead : Int) : List Char :=
  let mantissa := match digits with
    | first :: second :: rest => first :: '.' :: second :: rest
    | short => short
  let sign := if lead < 0 then '-' else '+'
  mantissa ++ 'e' :: sign :: natText lead.natAbs

/-- A positive decimal in the convention. -/
def decimalText (layout : FloatLayout) (d : Decimal) : List Char :=
  let digits := natText d.digits
  let lead := d.exponent + digits.length - 1
  match layout.positional with
  | none => layout.positionalText d
  | some (least, greatest) =>
    if least ≤ lead && lead ≤ greatest then layout.positionalText d else exponentText digits lead

/-- A double in the convention. -/
def text (layout : FloatLayout) (x : Float) : List Char :=
  match Binary.ofFloat x with
  | .notANumber => "NaN".toList
  | .infinite negative => (if negative then "-inf" else "inf").toList
  | .finite negative mantissa exponent =>
    let body :=
      if mantissa == 0 then (if layout.pointZero then ['0', '.', '0'] else ['0'])
      else layout.decimalText (Decimal.shortest layout.tie mantissa exponent)
    if negative then '-' :: body else body

end FloatLayout

/-- A double with a fixed number of decimal places, at least one; an exact tie goes to the even
neighbour. -/
def fixedText (places : Nat) (x : Float) : List Char :=
  match Binary.ofFloat x with
  | .notANumber => "NaN".toList
  | .infinite negative => (if negative then "-inf" else "inf").toList
  | .finite negative mantissa exponent =>
    let value := Fraction.scaled mantissa 2 exponent
    let units := roundDiv (value.numerator * Nat.pow 10 places) value.denominator .toEven
    let digits := paddedText (places + 1) units
    let body := digits.take (digits.length - places) ++ '.' :: digits.drop (digits.length - places)
    if negative then '-' :: body else body

end LogIngest

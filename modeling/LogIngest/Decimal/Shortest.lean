import LogIngest.Decimal.Binary

/-!
The shortest decimal that reads back as a given double. All comparisons are exact.
-/

namespace LogIngest

/-- The number `digits · 10^exponent`. -/
structure Decimal where
  digits : Nat
  exponent : Int
deriving DecidableEq, Repr

namespace Decimal

def toFraction (d : Decimal) : Fraction :=
  Fraction.scaled d.digits 10 d.exponent

/-- Four times the mantissa, so that the ends of the interval that rounds to a double are whole. The
neighbour below a power of two is only half as far away, unless the exponent is the least. -/
def intervalEnds (mantissa : Nat) (exponent : Int) : Nat × Nat :=
  let m := 4 * mantissa
  if mantissa == Nat.pow 2 52 && exponent != -1074 then (m - 1, m + 2) else (m - 2, m + 2)

/-- Whether a decimal reads back as `mantissa · 2^exponent`: it lies within the interval that rounds
to it, whose ends belong to it when the mantissa is even. -/
def readsBack (mantissa : Nat) (exponent : Int) (d : Decimal) : Bool :=
  let (low, high) := intervalEnds mantissa exponent
  let value := d.toFraction
  let fromLow := value.cmp (Fraction.scaled low 2 (exponent - 2))
  let fromHigh := value.cmp (Fraction.scaled high 2 (exponent - 2))
  (fromLow == .gt && fromHigh == .lt) ||
    (mantissa % 2 == 0 && (fromLow == .eq || fromHigh == .eq))

/-- Of the two neighbours of the value on the grid of multiples of `10^grid`, the one that reads back
and is nearer. -/
def onGrid? (tie : Tie) (mantissa : Nat) (exponent grid : Int) : Option Decimal :=
  let ratio := (Fraction.scaled mantissa 2 exponent).ratio (Fraction.scaled 1 10 grid)
  let below : Decimal := ⟨ratio.floor, grid⟩
  let above : Decimal := ⟨ratio.floor + 1, grid⟩
  match readsBack mantissa exponent below, readsBack mantissa exponent above with
  | false, false => none
  | true, false => some below
  | false, true => some above
  | true, true =>
    if roundDiv ratio.numerator ratio.denominator tie == ratio.floor then some below else some above

/-- The exponent of the leading decimal digit of a positive value: an estimate from the number of
binary digits, which is off by at most one, corrected by comparison. -/
def leadingExponent (mantissa : Nat) (exponent : Int) : Int :=
  let value := Fraction.scaled mantissa 2 exponent
  let estimate := ((mantissa.log2 : Int) + exponent) * 30103 / 100000
  if value.cmp (Fraction.scaled 1 10 estimate) == .lt then estimate - 1
  else if value.cmp (Fraction.scaled 1 10 (estimate + 1)) == .lt then estimate
  else estimate + 1

/-- Drops zeros from the end of the digits, at most `fuel` of them. -/
def dropZeros : Nat → Decimal → Decimal
  | 0, d => d
  | fuel + 1, d =>
    if d.digits % 10 == 0 then dropZeros fuel ⟨d.digits / 10, d.exponent + 1⟩ else d

/-- The decimal with the fewest digits that reads back as the positive value `mantissa · 2^exponent`,
and of those the nearest to it. Seventeen digits are always enough. -/
def shortest (tie : Tie) (mantissa : Nat) (exponent : Int) : Decimal :=
  let lead := leadingExponent mantissa exponent
  let found := (List.range 17).findSome? fun (extra : Nat) =>
    onGrid? tie mantissa exponent (lead - extra)
  dropZeros 17 (found.getD ⟨0, 0⟩)

end Decimal
end LogIngest

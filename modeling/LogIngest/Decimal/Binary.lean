/-!
A double as a sign and an exact value `mantissa · 2^exponent`, and comparisons of such values with
decimals in exact arithmetic.
-/

namespace LogIngest

/-- What a double denotes. -/
inductive Binary where
  | finite (negative : Bool) (mantissa : Nat) (exponent : Int)
  | infinite (negative : Bool)
  | notANumber
deriving DecidableEq, Repr

namespace Binary

/-- Takes the sign, the eleven exponent bits and the fraction apart. The smallest exponent carries no
hidden bit. -/
def ofBits (bits : UInt64) : Binary :=
  let n := bits.toNat
  let negative := n / Nat.pow 2 63 == 1
  let biased : Nat := n / Nat.pow 2 52 % Nat.pow 2 11
  let fraction : Nat := n % Nat.pow 2 52
  if biased == 2047 then
    if fraction == 0 then infinite negative else notANumber
  else if biased == 0 then finite negative fraction (-1074)
  else finite negative (fraction + Nat.pow 2 52) ((biased : Int) - 1075)

def ofFloat (x : Float) : Binary :=
  ofBits x.toBits

/-- The whole part of a magnitude and whether nothing was cut off. -/
def wholePart (mantissa : Nat) (exponent : Int) : Nat × Bool :=
  if 0 ≤ exponent then (mantissa * Nat.pow 2 exponent.toNat, true)
  else
    let unit := Nat.pow 2 (-exponent).toNat
    (mantissa / unit, mantissa % unit == 0)

def signed (negative : Bool) (n : Nat) : Int :=
  if negative then -n else n

/-- The whole number next to a finite value on the side of zero. -/
def truncate? : Binary → Option Int
  | finite negative mantissa exponent => some (signed negative (wholePart mantissa exponent).1)
  | _ => none

/-- The value, if it is a whole number. -/
def whole? : Binary → Option Int
  | finite negative mantissa exponent =>
    let (n, exact) := wholePart mantissa exponent
    if exact then some (signed negative n) else none
  | _ => none

end Binary

/-- The number `numerator / denominator`, kept as it is. -/
structure Fraction where
  numerator : Nat
  denominator : Nat
deriving DecidableEq, Repr

namespace Fraction

/-- The number `coefficient · base^exponent`. -/
def scaled (coefficient base : Nat) (exponent : Int) : Fraction :=
  if 0 ≤ exponent then ⟨coefficient * Nat.pow base exponent.toNat, 1⟩
  else ⟨coefficient, Nat.pow base (-exponent).toNat⟩

/-- Comparison by cross-multiplication. -/
def cmp (a b : Fraction) : Ordering :=
  compare (a.numerator * b.denominator) (b.numerator * a.denominator)

/-- The quotient of two fractions. -/
def ratio (a b : Fraction) : Fraction :=
  ⟨a.numerator * b.denominator, a.denominator * b.numerator⟩

/-- The greatest whole number not above the fraction. -/
def floor (a : Fraction) : Nat :=
  a.numerator / a.denominator

end Fraction

/-- Which way a value goes that lies exactly between two candidates. -/
inductive Tie where
  | toEven
  | up
deriving DecidableEq, Repr

/-- The quotient rounded to a whole number. -/
def roundDiv (numerator denominator : Nat) (tie : Tie) : Nat :=
  let quotient := numerator / denominator
  let twice := 2 * (numerator % denominator)
  if twice < denominator then quotient
  else if denominator < twice then quotient + 1
  else match tie with
    | .up => quotient + 1
    | .toEven => if quotient % 2 == 0 then quotient else quotient + 1

end LogIngest

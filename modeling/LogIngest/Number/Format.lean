import LogIngest.Config.Error
import LogIngest.Decimal.Binary
import LogIngest.Decimal.Reading
import LogIngest.Text.Pieces
import LogIngest.Text.Quotes

/-!
Number formats: patterns such as `#,##0.00`, `'USD '0`, `0.###E0`, `#%` and `#,##0;(#,##0)` by which
numbers are read. What stands before the number has to match, then the longest run that is a number is
taken, then what stands behind it has to match; the rest of the text does not matter.
-/

namespace LogIngest

/-- A number that a format reads. -/
inductive Amount where
  | whole (n : Int64)
  | fractional (x : Float)

namespace Amount

def toFloat : Amount → Float
  | whole n => Float.ofInt n.toInt
  | fractional x => x

end Amount

/-- What stands before and behind a number. -/
structure Affixes where
  before : List Char := []
  behind : List Char := []
deriving DecidableEq, Repr

/-- A compiled number format. -/
structure NumberFormat where
  positive : Affixes
  negative : Affixes
  /-- What the number in the text is divided by: a hundred for percentages. -/
  divisor : Nat
  /-- Whether commas may stand between the digits. -/
  grouping : Bool
deriving DecidableEq, Repr

namespace NumberFormat

/-- Why a pattern is no number format. -/
inductive Fault where
  | noPlaceholder
  | unterminatedQuote
  | emptyExponent
  | specialBehindNumber (c : Char)
  | severalPoints
  | severalDivisors
deriving DecidableEq, Repr

namespace Fault

def message : Fault → String
  | noPlaceholder => "pattern has no digit placeholders"
  | unterminatedQuote => "unterminated quote"
  | emptyExponent => "exponent requires at least one '0'"
  | specialBehindNumber c =>
    let shown := String.singleton c
    s!"unquoted special character '{shown}' in suffix"
  | severalPoints => "multiple decimal separators"
  | severalDivisors => "too many percent/per-mille characters"

end Fault

/-- The parts of a pattern for one sign: what stands before the number, the number, its exponent (none
or some of its zeros read), and what stands behind. -/
inductive Part where
  | before
  | number
  | exponentMark
  | exponent
  | behind
deriving DecidableEq, Repr

/-- What is known of a pattern for one sign. -/
structure Outline where
  part : Part := .before
  affixes : Affixes := {}
  divisor : Option Nat := none
  grouping : Bool := false
  placeholder : Bool := false
  point : Bool := false
deriving DecidableEq, Repr

/-- The characters that make up the number of a pattern. -/
def isNumberChar (c : Char) : Bool :=
  c == '#' || c.isDigit || c == ',' || c == '.'

namespace Outline

/-- Adds a character before the number, or behind it once the number has begun. -/
def push (outline : Outline) (c : Char) : Outline :=
  let affixes := outline.affixes
  match outline.part with
  | .before => { outline with affixes := { affixes with before := affixes.before ++ [c] } }
  | _ =>
    { outline with part := .behind, affixes := { affixes with behind := affixes.behind ++ [c] } }

/-- Takes a character of the number. -/
def addNumberChar (outline : Outline) (c : Char) : Except Fault Outline :=
  let outline := { outline with part := .number }
  if c == ',' then .ok { outline with grouping := true }
  else if c == '.' then
    if outline.point then .error .severalPoints else .ok { outline with point := true }
  else .ok { outline with placeholder := true }

/-- Takes a character that belongs before or behind the number. -/
def addAffixChar (outline : Outline) (c : Char) : Except Fault Outline :=
  let divide (n : Nat) : Except Fault Outline :=
    match outline.divisor with
    | some _ => .error .severalDivisors
    | none => .ok ({ outline with divisor := some n }.push c)
  if c == '%' then divide 100
  else if c == '‰' then divide 1000
  else .ok (outline.push c)

/-- Takes an unquoted character. -/
def addPlain (outline : Outline) (c : Char) : Except Fault Outline :=
  match outline.part with
  | .before => if isNumberChar c then outline.addNumberChar c else outline.addAffixChar c
  | .number =>
    if isNumberChar c then outline.addNumberChar c
    else if c == 'E' then .ok { outline with part := .exponentMark }
    else outline.addAffixChar c
  | .exponentMark =>
    if c == '0' then .ok { outline with part := .exponent } else .error .emptyExponent
  | .exponent =>
    if c == '0' then .ok outline
    else if isNumberChar c then .error (.specialBehindNumber c)
    else outline.addAffixChar c
  | .behind =>
    if isNumberChar c then .error (.specialBehindNumber c) else outline.addAffixChar c

/-- Takes a symbol. Only zeros may follow the mark of an exponent. -/
def add (outline : Outline) (symbol : Text.Symbol) : Except Fault Outline :=
  match symbol with
  | .plain c => outline.addPlain c
  | .literal c =>
    if outline.part == .exponentMark then .error .emptyExponent else .ok (outline.push c)
  | .unterminated =>
    if outline.part == .exponentMark then .error .emptyExponent else .error .unterminatedQuote

/-- The outline of a whole pattern for one sign. -/
def ofSymbols (symbols : List Text.Symbol) : Except Fault Outline := do
  let outline ← symbols.foldlM add {}
  if outline.part == .exponentMark then throw .emptyExponent
  return outline

end Outline

/-- Compiles a pattern. A second pattern, behind a semicolon, gives what stands around negative
numbers; without one a minus sign is put in front. -/
def compile (pattern : List Char) : Except Fault NumberFormat := do
  let all := Text.symbols pattern
  let forPositive := all.takeWhile (· != .plain ';')
  let positive ← Outline.ofSymbols forPositive
  if !positive.placeholder then throw .noPlaceholder
  let negative ← match all.dropWhile (· != .plain ';') with
    | [] => pure { positive.affixes with before := '-' :: positive.affixes.before }
    | _ :: forNegative => Outline.affixes <$> Outline.ofSymbols forNegative
  return {
    positive := positive.affixes
    negative
    divisor := positive.divisor.getD 1
    grouping := positive.grouping }

/-- Compiles a pattern of a configuration. -/
def ofPattern (pattern : String) : Except SetupError NumberFormat :=
  (compile pattern.toList).mapError fun fault => .invalidNumberFormat pattern fault.message

/-- A number as it is written: digits, digits behind the point if there is one, and an exponent if
there is one. -/
structure Numeral where
  whole : List Char
  places : Option (List Char)
  exponent : Option Int
deriving DecidableEq, Repr

/-- The digits at the start of a text. With grouping, commas behind a digit are passed over. -/
def takeGrouped (grouping started : Bool) : List Char → List Char × List Char
  | [] => ([], [])
  | c :: rest =>
    if c.isDigit then
      let (digits, rest) := takeGrouped grouping true rest
      (c :: digits, rest)
    else if c == ',' && grouping && started then takeGrouped grouping true rest
    else ([], c :: rest)

/-- The exponent at the start of a text: a mark, an optional sign and at least one digit. -/
def takeExponent (text : List Char) : Option Int × List Char :=
  match text with
  | 'E' :: rest =>
    let (negative, digits) : Bool × List Char := match rest with
      | '-' :: digits => (true, digits)
      | '+' :: digits => (false, digits)
      | _ => (false, rest)
    match takeDigits digits with
    | ([], _) => (none, text)
    | (digits, rest) =>
      let magnitude : Int := digitsValue digits
      (some (if negative then -magnitude else magnitude), rest)
  | _ => (none, text)

/-- The longest run at the start of a text that is a number, and the text behind it. -/
def takeNumeral (grouping : Bool) (text : List Char) : Option (Numeral × List Char) :=
  let (whole, afterWhole) := takeGrouped grouping false text
  let (places, rest) : Option (List Char) × List Char := match afterWhole with
    | '.' :: more =>
      let (places, rest) := takeDigits more
      (some places, rest)
    | _ => (none, afterWhole)
  if whole.isEmpty && (places.getD []).isEmpty then none
  else
    let (exponent, rest) := takeExponent rest
    some (⟨whole, places, exponent⟩, rest)

namespace Numeral

/-- The nearest double. -/
def toFloat (numeral : Numeral) : Float :=
  let places := numeral.places.getD []
  nearestDouble (digitsValue (numeral.whole ++ places)) (numeral.exponent.getD 0 - places.length)

/-- The whole number that is written without point and exponent and fits 64 bits. -/
def toWhole? (numeral : Numeral) : Option Int :=
  if numeral.places.isNone && numeral.exponent.isNone then
    let n : Int := digitsValue numeral.whole
    if Bounds.int64.admits n then some n else none
  else none

/-- The value with its sign, divided by the divisor of the format. Whole numbers stay whole as long as
the division leaves nothing over; doubles become whole when they are so below 2^53. -/
def toAmount (numeral : Numeral) (negative : Bool) (divisor : Nat) : Amount :=
  match numeral.toWhole? with
  | some n =>
    let n := if negative then -n else n
    if n.tmod divisor == 0 then .whole (Int64.ofInt (n.tdiv divisor))
    else .fractional (Float.ofInt n / Float.ofNat divisor)
  | none =>
    let x := numeral.toFloat
    let x := (if negative then -x else x) / Float.ofNat divisor
    match (Binary.ofFloat x).whole? with
    | some n => if n.natAbs < Nat.pow 2 53 then .whole (Int64.ofInt n) else .fractional x
    | none => .fractional x

end Numeral

/-- The text behind a given start. -/
def dropStart? (start text : List Char) : Option (List Char) :=
  if start.isPrefixOf text then some (text.drop start.length) else none

/-- The sign that the start of a text shows, and the text behind what stands before the number. When
the starts of both signs fit, the longer one counts, and of equal ones the positive. -/
def takeSign (format : NumberFormat) (text : List Char) : Option (Bool × List Char) :=
  match dropStart? format.positive.before text, dropStart? format.negative.before text with
  | some p, some n => if n.length < p.length then some (true, n) else some (false, p)
  | some p, none => some (false, p)
  | none, some n => some (true, n)
  | none, none => none

/-- Reads a number by the format. -/
def read? (format : NumberFormat) (text : List Char) : Option Amount := do
  let (negative, body) ← format.takeSign text
  let (numeral, rest) ← takeNumeral format.grouping body
  let behind := if negative then format.negative.behind else format.positive.behind
  if behind.isPrefixOf rest then some (numeral.toAmount negative format.divisor) else none

/-- Reads the text of a field by the format. -/
def read (format : NumberFormat) (text : String) : Except FieldError Amount :=
  match format.read? text.toList with
  | some amount => .ok amount
  | none => .error (.invalidNumber text "number")

end NumberFormat
end LogIngest

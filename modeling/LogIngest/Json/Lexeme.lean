import LogIngest.Decimal.Reading
import LogIngest.Json.Fault

/-!
The parts of a JSON text that have no parts of their own: words, numbers and strings. Every reader
returns what it read and the text after it.
-/

namespace LogIngest.Json

/-- What reading yields: a value and the text after it, or a fault. -/
abbrev Step (α : Type) := Except Fault (α × List Char)

variable {α β : Type}

/-- Stops where the reader stands. -/
def stopAt (cause : Cause) (rest : List Char) : Except Fault α :=
  .error ⟨cause, rest, 0, true⟩

/-- Stops behind the first byte of the text that follows. -/
def stopPast (cause : Cause) (rest : List Char) : Except Fault α :=
  .error ⟨cause, rest, 1, true⟩

/-- Stops with a fault of meaning, whose place is found later. -/
def refuse (cause : Cause) (rest : List Char) : Except Fault α :=
  .error ⟨cause, rest, 0, false⟩

def isSpace (c : Char) : Bool :=
  c == ' ' || c == '\n' || c == '\t' || c == '\r'

/-- The text from the first character that is no white space. -/
def skipSpace (text : List Char) : List Char :=
  text.dropWhile isSpace

/-- Reads given letters. -/
def readWord : List Char → List Char → Except Fault (List Char)
  | [], text => .ok text
  | _ :: _, [] => stopAt .eofValue []
  | letter :: letters, c :: text =>
    if c == letter then readWord letters text else stopPast .expectedIdent (c :: text)

/-- Whether a text starts with a decimal digit. -/
def startsWithDigit : List Char → Bool
  | [] => false
  | c :: _ => c.isDigit

/-- Adds digits to a number as long as the result fits 64 bits; also gives their count. -/
def accumulate (value : Nat) : List Char → Nat × Nat × List Char
  | [] => (value, 0, [])
  | c :: rest =>
    match digitValue? c with
    | none => (value, 0, c :: rest)
    | some d =>
      let next := 10 * value + d
      if Nat.pow 2 64 ≤ next then (value, 0, c :: rest)
      else
        let (value, count, rest) := accumulate next rest
        (value, count + 1, rest)

/-- Divides by a power of ten, in strides that a double can hold. -/
def divideByPower : Nat → Float → Nat → Float
  | 0, x, _ => x
  | strides + 1, x, places =>
    if places ≤ 308 then x / Float.ofScientific 1 false places
    else if x == 0.0 then x
    else divideByPower strides (x / 1e308) (places - 308)

/-- The double written with the digits of `significand` and the exponent. The digits become a double
first, which is then multiplied or divided by a power of ten, so the result may differ in its last
digit from the nearest double. None when it is beyond every double. -/
def assembleDouble? (significand : Nat) (exponent : Int) : Option Float :=
  let digits := Float.ofNat significand
  if exponent < 0 then
    let places := (-exponent).toNat
    some (divideByPower (places / 308 + 1) digits places)
  else if 308 < exponent then
    if significand == 0 then some digits else none
  else
    let x := digits * Float.ofScientific 1 false exponent.toNat
    if x.isInf then none else some x

def signed (positive : Bool) (x : Float) : Float :=
  if positive then x else -x

/-- The double of the digits and exponent read before `rest`. -/
def finishDouble (positive : Bool) (significand : Nat) (exponent : Int) (rest : List Char) :
    Step Number :=
  match assembleDouble? significand exponent with
  | some x => .ok (.double (signed positive x), rest)
  | none => stopAt .numberOutOfRange rest

/-- Reads the digits of an exponent as long as they fit 31 bits, and stops behind the first digit that
no longer does. -/
def exponentDigits (value : Nat) : List Char → Except (List Char) (Nat × List Char)
  | [] => .ok (value, [])
  | c :: rest =>
    match digitValue? c with
    | none => .ok (value, c :: rest)
    | some d =>
      let next := 10 * value + d
      if Nat.pow 2 31 ≤ next then .error rest else exponentDigits next rest

/-- Reads what follows the mark of an exponent. An exponent that is too long settles the value: zero,
or a number out of range. -/
def readExponent (positive : Bool) (significand : Nat) (base : Int) (text : List Char) :
    Step Number :=
  let (upward, digits) : Bool × List Char := match text with
    | '+' :: rest => (true, rest)
    | '-' :: rest => (false, rest)
    | _ => (true, text)
  match digits with
  | [] => stopAt .eofValue []
  | c :: _ =>
    if !c.isDigit then stopPast .invalidNumber digits
    else
      match exponentDigits 0 digits with
      | .ok (value, rest) =>
        finishDouble positive significand (if upward then base + value else base - value) rest
      | .error rest =>
        if significand != 0 && upward then stopAt .numberOutOfRange rest
        else .ok (.double (signed positive 0.0), rest.dropWhile Char.isDigit)

/-- Whether a text starts with the mark of an exponent. -/
def startsWithExponent : List Char → Bool
  | 'e' :: _ | 'E' :: _ => true
  | _ => false

/-- Reads what follows the point of a number. Digits that no longer fit are passed over. -/
def readPlaces (positive : Bool) (significand : Nat) (base : Int) (text : List Char) :
    Step Number :=
  let (significand, count, beyond) := accumulate significand text
  if count == 0 && !startsWithDigit beyond then
    if beyond.isEmpty then stopAt .eofValue [] else stopPast .invalidNumber beyond
  else
    let rest := beyond.dropWhile Char.isDigit
    if startsWithExponent rest then readExponent positive significand (base - count) rest.tail
    else finishDouble positive significand (base - count) rest

/-- Reads a number after its sign. Digits beyond 64 bits only count for the exponent. -/
def readNumber (positive : Bool) (text : List Char) : Step Number :=
  match text with
  | [] => stopAt .eofValue []
  | first :: afterFirst =>
    if !first.isDigit then stopPast .invalidNumber text
    else if first == '0' && startsWithDigit afterFirst then stopPast .invalidNumber afterFirst
    else
      let (significand, _, beyond) := accumulate 0 text
      let (dropped, rest) := takeDigits beyond
      match rest with
      | '.' :: places => readPlaces positive significand dropped.length places
      | 'e' :: exponent | 'E' :: exponent =>
        readExponent positive significand dropped.length exponent
      | _ =>
        if !dropped.isEmpty then finishDouble positive significand dropped.length rest
        else if positive then .ok (.integer significand, rest)
        else if significand == 0 || Nat.pow 2 63 < significand then
          .ok (.double (-(Float.ofNat significand)), rest)
        else .ok (.integer (-significand), rest)

/-- Reads four hexadecimal digits. -/
def readHex (text : List Char) : Step Nat :=
  let wrong : Step Nat :=
    if Text.byteSize text < 4 then stopAt .eofString []
    else .error ⟨.invalidEscape, text, 4, true⟩
  match text with
  | a :: b :: c :: d :: rest =>
    match hexValue? a, hexValue? b, hexValue? c, hexValue? d with
    | some a, some b, some c, some d => .ok (((a * 16 + b) * 16 + c) * 16 + d, rest)
    | _, _, _, _ => wrong
  | _ => wrong

/-- Reads one expected character inside a surrogate pair. -/
def readPairMark (mark : Char) : List Char → Except Fault (List Char)
  | [] => stopAt .eofString []
  | c :: rest => if c == mark then .ok rest else stopPast .brokenSurrogate (c :: rest)

/-- Reads the character written by a code after a backslash and the letter u: one code, or two that
are the surrogates of one character. -/
def readCode (text : List Char) : Except Fault (Char × List Char) := do
  let (code, rest) ← readHex text
  if 0xDC00 ≤ code && code ≤ 0xDFFF then stopAt .loneSurrogate rest
  else if code < 0xD800 || 0xDBFF < code then return (Char.ofNat code, rest)
  else
    let rest ← readPairMark '\\' rest
    let rest ← readPairMark 'u' rest
    let (second, rest) ← readHex rest
    if second < 0xDC00 || 0xDFFF < second then stopAt .loneSurrogate rest
    else return (Char.ofNat ((code - 0xD800) * 0x400 + (second - 0xDC00) + 0x10000), rest)

/-- The character that a letter after a backslash stands for. -/
def shortEscape? (c : Char) : Option Char :=
  match c with
  | '"' => some '"'
  | '\\' => some '\\'
  | '/' => some '/'
  | 'b' => some '\x08'
  | 'f' => some '\x0C'
  | 'n' => some '\n'
  | 'r' => some '\r'
  | 't' => some '\t'
  | _ => none

/-- Reads one character of a string, or its closing quote. -/
def readCharacter : List Char → Step (Option Char)
  | [] => stopAt .eofString []
  | '"' :: rest => .ok (none, rest)
  | '\\' :: rest =>
    match rest with
    | [] => stopAt .eofString []
    | 'u' :: digits => (readCode digits).map fun (c, rest) => (some c, rest)
    | c :: after =>
      match shortEscape? c with
      | some c => .ok (some c, after)
      | none => stopPast .invalidEscape rest
  | c :: rest =>
    if c.toNat < 0x20 then stopPast .controlCharacter (c :: rest) else .ok (some c, rest)

/-- Repeats a reader until it yields nothing, and collects what it yields. The reader is told whether
it is called for the first time. The bound is on the number of calls. -/
def collect (next : Bool → List Char → Step (Option α)) : Nat → Bool → List Char → Step (List α)
  | 0, _, text => .ok ([], text)
  | bound + 1, first, text =>
    match next first text with
    | .error fault => .error fault
    | .ok (none, rest) => .ok ([], rest)
    | .ok (some a, rest) =>
      match collect next bound false rest with
      | .error fault => .error fault
      | .ok (as, rest) => .ok (a :: as, rest)

/-- Reads a string after its opening quote. Each character takes at least one from the text, which
bounds their number. -/
def readString (text : List Char) : Step (List Char) :=
  collect (fun _ => readCharacter) (text.length + 1) true text

end LogIngest.Json

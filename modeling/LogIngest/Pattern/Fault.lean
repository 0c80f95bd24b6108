import LogIngest.Decimal.Numeral

/-!
Why a text is no pattern, and in which part of it the fault lies.
-/

namespace LogIngest.Pattern

/-- What is wrong with a text that is no pattern. -/
inductive Cause where
  | lookAround
  | unclosedGroup
  | unopenedGroup
  | unclosedName
  | emptyName
  | nameCharacter
  | repeatedName
  | unclosedFlags
  | unknownFlag
  | repeatedFlag
  | repeatedHyphen
  | danglingHyphen
  | nothingToRepeat
  | unclosedCount
  | emptyCount
  | hugeCount
  | decreasingCounts
  | unclosedEscape
  | unknownEscape
  | backreference
  | emptyCode
  | codeDigit
  | noCharacter
  | openEdge
  | unclosedEdge
  | unknownEdge
  | unclosedClass
  | classEscape
  | rangeEnd
  | decreasingRange
  /-- A backslash where the letter of a Unicode class should stand. -/
  | classLetter
  | unknownProperty
  | unknownValue
  /-- A character or a class beyond ASCII where only bytes are allowed. -/
  | beyondBytes
  /-- A class with bytes that are no characters by themselves. -/
  | beyondAscii
  /-- Groups, repetitions, classes and the lists of their parts that nest in more levels than there may be. -/
  | tooDeep (limit : Nat)
deriving DecidableEq, Repr

namespace Cause

def message : Cause → String
  | lookAround => "look-around, including look-ahead and look-behind, is not supported"
  | unclosedGroup => "unclosed group"
  | unopenedGroup => "unopened group"
  | unclosedName => "unclosed capture group name"
  | emptyName => "empty capture group name"
  | nameCharacter => "invalid capture group character"
  | repeatedName => "duplicate capture group name"
  | unclosedFlags => "expected flag but got end of regex"
  | unknownFlag => "unrecognized flag"
  | repeatedFlag => "duplicate flag"
  | repeatedHyphen => "flag negation operator repeated"
  | danglingHyphen => "dangling flag negation operator"
  | nothingToRepeat => "repetition operator missing expression"
  | unclosedCount => "unclosed counted repetition"
  | emptyCount => "repetition quantifier expects a valid decimal"
  | hugeCount => "decimal literal invalid"
  | decreasingCounts => "invalid repetition count range, the start must be <= the end"
  | unclosedEscape => "incomplete escape sequence, reached end of pattern prematurely"
  | unknownEscape => "unrecognized escape sequence"
  | backreference => "backreferences are not supported"
  | emptyCode => "hexadecimal literal empty"
  | codeDigit => "invalid hexadecimal digit"
  | noCharacter => "hexadecimal literal is not a Unicode scalar value"
  | openEdge =>
    "found either the beginning of a special word boundary or a bounded repetition on a \\b with " ++
      "an opening brace, but no closing brace"
  | unclosedEdge =>
    "special word boundary assertion is either unclosed or contains an invalid character"
  | unknownEdge =>
    "unrecognized special word boundary assertion, valid choices are: start, end, start-half or " ++
      "end-half"
  | unclosedClass => "unclosed character class"
  | classEscape => "invalid escape sequence found in character class"
  | rangeEnd => "invalid range boundary, must be a literal"
  | decreasingRange => "invalid character class range, the start must be <= the end"
  | classLetter => "invalid Unicode character class"
  | unknownProperty => "Unicode property not found"
  | unknownValue => "Unicode property value not found"
  | beyondBytes => "Unicode not allowed here"
  | beyondAscii => "pattern can match invalid UTF-8"
  | tooDeep limit =>
    let limit := String.ofList (natText limit)
    s!"exceed the maximum number of nested parentheses/brackets ({limit})"

end Cause

/-- A part of a pattern. Its ends are given by the number of characters behind them. -/
structure Span where
  start : Nat
  stop : Nat
deriving DecidableEq, Repr

namespace Span

/-- The part from where one text starts to where another one does; both are what is left of the
pattern from there on. -/
def between (start stop : List Char) : Span :=
  ⟨start.length, stop.length⟩

/-- The first character of what is left of the pattern. -/
def first (text : List Char) : Span :=
  between text text.tail

end Span

inductive Fault where
  /-- A fault in some part of the pattern, which may be due to another part. -/
  | malformed (cause : Cause) (span : Span) (other : Option Span)
  /-- The pattern nests in too many levels. -/
  | tooDeep (limit : Nat)
  /-- The program of the pattern would take more bytes than it may. -/
  | tooLarge (limit : Nat)
deriving DecidableEq, Repr

/-- Fails at the part from where one text starts to where another one does. -/
def fail {α : Type} (cause : Cause) (start stop : List Char) : Except Fault α :=
  .error (.malformed cause (.between start stop) none)

/-- Fails at the first character of a text. -/
def failAt {α : Type} (cause : Cause) (text : List Char) : Except Fault α :=
  .error (.malformed cause (.first text) none)

/-- Fails in one part because of another. -/
def failDueTo {α : Type} (cause : Cause) (span other : Span) : Except Fault α :=
  .error (.malformed cause span (some other))

end LogIngest.Pattern

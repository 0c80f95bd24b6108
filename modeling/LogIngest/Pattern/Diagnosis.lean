import LogIngest.Decimal.Numeral
import LogIngest.Pattern.Fault
import LogIngest.Text.Pieces

/-!
Messages about faults of patterns: the pattern with its faulty parts marked, and what is wrong there.
-/

namespace LogIngest.Pattern

/-- A place in a text by line and column, both counted from zero. -/
structure Location where
  line : Nat
  column : Nat
deriving DecidableEq, Repr

namespace Location

/-- The place behind a text. -/
def behind (text : List Char) : Location where
  line := text.count '\n'
  column := (text.reverse.takeWhile (· != '\n')).length

end Location

/-- A part of a text between two places. -/
structure Extent where
  start : Location
  stop : Location
deriving DecidableEq, Repr

namespace Extent

/-- The places between which a part of a pattern lies. -/
def ofSpan (pattern : List Char) (span : Span) : Extent where
  start := .behind (pattern.take (pattern.length - span.start))
  stop := .behind (pattern.take (pattern.length - span.stop))

/-- Whether the part lies on a single line. -/
def isOneLine (extent : Extent) : Bool :=
  extent.start.line == extent.stop.line

/-- Marks below a line under some parts of it, given in order. -/
def marks : (column : Nat) → List Extent → List Char
  | _, [] => []
  | column, extent :: extents =>
    let start := extent.start.column
    let length := max 1 (extent.stop.column - start)
    List.replicate (start - column) ' ' ++ List.replicate length '^' ++
      marks (max column start + length) extents

end Extent

/-- The lines of a text. A line feed at the end starts no line, and a carriage return at the end of a
line is no part of it. -/
def linesOf (text : List Char) : List (List Char) :=
  let lines := Text.split ['\n'] text
  let lines := if lines.getLast? == some [] then lines.dropLast else lines
  lines.map fun line => if line.getLast? == some '\r' then line.dropLast else line

namespace Fault

/-- A line that parts other texts. -/
def divider : List Char :=
  List.replicate 79 '~'

/-- The line of a pattern with what stands before it and the marks below it. -/
def marked (margin : Nat → List Char) (extents : List Extent) (number : Nat) (line : List Char) :
    List (List Char) :=
  let here := extents.filter fun extent => extent.isOneLine && extent.start.line == number
  let shown := margin number ++ line
  if here.isEmpty then [shown]
  else [shown, List.replicate (margin number).length ' ' ++ Extent.marks 0 here]

/-- What stands before the lines of a pattern: their numbers if there are several. -/
def margin (lines number : Nat) : List Char :=
  if lines ≤ 1 then List.replicate 4 ' '
  else
    let digits := natText (number + 1)
    List.replicate ((natText lines).length - digits.length) ' ' ++ digits ++ [':', ' ']

/-- Where a part lies that spans several lines. -/
def place (extent : Extent) : List Char :=
  "on line ".toList ++ natText (extent.start.line + 1) ++ " (column ".toList ++
    natText (extent.start.column + 1) ++ ") through line ".toList ++
    natText (extent.stop.line + 1) ++ " (column ".toList ++ natText extent.stop.column ++ [')']

/-- The parts to be marked, in order. -/
def extents (pattern : List Char) (span : Span) (other : Option Span) : List Extent :=
  let spans := match other with
    | none => [span]
    | some other => if other.start < span.start then [span, other] else [other, span]
  spans.map (Extent.ofSpan pattern)

/-- The lines of a message. -/
def report (pattern : List Char) (cause : Cause) (extents : List Extent) : List (List Char) :=
  let lines := linesOf pattern
  let count := if pattern.getLast? == some '\n' then lines.length + 1 else lines.length
  let shown := (lines.mapIdx (marked (margin count) extents)).flatten
  let error := "error: ".toList ++ cause.message.toList
  if pattern.contains '\n' then
    let places := (extents.filter fun extent => !extent.isOneLine).map place
    [divider] ++ shown ++ [divider] ++ places ++ [error]
  else shown ++ [error]

/-- The message about a fault of the syntax, with the parts to be marked. -/
def syntaxMessage (pattern : List Char) (cause : Cause) (extents : List Extent) : String :=
  String.ofList (Text.join ['\n'] ("regex parse error:".toList :: report pattern cause extents))

/-- The message about a fault of a pattern. -/
def message (pattern : List Char) : Fault → String
  | malformed cause span other => syntaxMessage pattern cause (extents pattern span other)
  | tooDeep limit => syntaxMessage pattern (.tooDeep limit) []
  | tooLarge limit =>
    let limit := String.ofList (natText limit)
    s!"Compiled regex exceeds size limit of {limit} bytes."

end Fault
end LogIngest.Pattern

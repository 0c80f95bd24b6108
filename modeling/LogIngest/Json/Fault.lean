import LogIngest.Json.Writer

/-!
Why a JSON text cannot be read, and where in the text.
-/

namespace LogIngest.Json

/-- What was found where something else was expected. -/
inductive Found where
  | null
  | bool (b : Bool)
  | number (n : Number)
  | string (s : List Char)
  | array
  | object
deriving Repr

namespace Found

/-- The name of what was found. -/
def text : Found → String
  | null => "null"
  | bool b => "boolean `" ++ String.ofList (boolText b) ++ "`"
  | number (.integer n) => "integer `" ++ String.ofList (intText n) ++ "`"
  | number (.double x) => "floating point `" ++ String.ofList (Number.double x).text ++ "`"
  | string s => "string " ++ String.ofList (Text.quoted s)
  | array => "sequence"
  | object => "map"

end Found

/-- The reasons for which reading stops. -/
inductive Cause where
  /-- The text ends where a value, a member, an element or a character is due. -/
  | eofValue | eofObject | eofList | eofString
  | expectedValue | expectedIdent | expectedColon | expectedCommaOrBrace | expectedCommaOrBracket
  | keyNotString | trailingComma | trailingCharacters
  | invalidNumber | numberOutOfRange
  | invalidEscape | loneSurrogate | brokenSurrogate | controlCharacter
  | tooDeep
  | missingMember (key : String)
  | repeatedMember (key : String)
  | wrongType (found : Found) (expected : String)
  | unfitValue (found : Found) (expected : String)
  | wrongLength (length : Nat) (expected : String)
  /-- The value is well formed but means nothing here. -/
  | refused (reason : String)
deriving Repr

namespace Cause

def message : Cause → String
  | eofValue => "EOF while parsing a value"
  | eofObject => "EOF while parsing an object"
  | eofList => "EOF while parsing a list"
  | eofString => "EOF while parsing a string"
  | expectedValue => "expected value"
  | expectedIdent => "expected ident"
  | expectedColon => "expected `:`"
  | expectedCommaOrBrace => "expected `,` or `\x7d`"
  | expectedCommaOrBracket => "expected `,` or `]`"
  | keyNotString => "key must be a string"
  | trailingComma => "trailing comma"
  | trailingCharacters => "trailing characters"
  | invalidNumber => "invalid number"
  | numberOutOfRange => "number out of range"
  | invalidEscape => "invalid escape"
  | loneSurrogate => "lone leading surrogate in hex escape"
  | brokenSurrogate => "unexpected end of hex escape"
  | controlCharacter => "control character (\\u0000-\\u001F) found while parsing a string"
  | tooDeep => "recursion limit exceeded"
  | missingMember key => "missing field `" ++ key ++ "`"
  | repeatedMember key => "duplicate field `" ++ key ++ "`"
  | wrongType found expected => "invalid type: " ++ found.text ++ ", expected " ++ expected
  | unfitValue found expected => "invalid value: " ++ found.text ++ ", expected " ++ expected
  | wrongLength length expected =>
    "invalid length " ++ String.ofList (natText length) ++ ", expected " ++ expected
  | refused reason => reason

end Cause

/-- Why reading stopped and where the reader stood. -/
structure Fault where
  cause : Cause
  /-- The text not yet consumed. -/
  rest : List Char
  /-- The number of bytes of it that belong to the fault. -/
  ahead : Nat
  /-- Whether the place is known. A fault of meaning is placed only when the container around it has
  been left. -/
  placed : Bool
deriving Repr

namespace Fault

/-- A fault of meaning takes the place where the reader stands after leaving the container. -/
def place (fault : Fault) (rest : List Char) : Fault :=
  if fault.placed then fault else { fault with rest := rest, ahead := 0, placed := true }

end Fault

/-- The line of a place in a text, counted from one, and the number of bytes before it on that
line. -/
structure Position where
  line : Nat
  column : Nat
deriving DecidableEq, Repr

/-- The position `offset` bytes after a position, in the text that starts there. -/
def Position.after (start : Position) : Nat → List Char → Position
  | _, [] => start
  | offset, c :: rest =>
    if offset < c.utf8Size then { start with column := start.column + offset }
    else
      let next := if c == '\n' then ⟨start.line + 1, 0⟩
        else { start with column := start.column + c.utf8Size }
      Position.after next (offset - c.utf8Size) rest

/-- The message of a fault in a text, with its place when it is known. -/
def Fault.message (fault : Fault) (text : List Char) : String :=
  if fault.placed then
    let offset := Text.byteSize text - Text.byteSize fault.rest + fault.ahead
    let position := Position.after ⟨1, 0⟩ offset text
    fault.cause.message ++ " at line " ++ String.ofList (natText position.line) ++
      " column " ++ String.ofList (natText position.column)
  else fault.cause.message

end LogIngest.Json

import LogIngest.Calendar.Format
import LogIngest.Parser.Basic
import LogIngest.Text.Pieces

/-!
Messages that are JSON objects: every member becomes a field. Strings in them can stand for dates and
for whole numbers that JSON itself cannot mark.
-/

namespace LogIngest

/-- Cuts a whole number out of a text. Its first character, a digit or a hyphen, has the place `start`, and
it goes on to the next character that is no digit. -/
def cutNumeralAt (start : Nat) (text : List Char) : Except Text.CutFault (List Char) := do
  let (_, behind) ← Text.cut start text
  let length := match ((Text.places behind).drop 1).find? (!·.2.isDigit) with
    | none => Text.byteSize text - start
    | some (place, _) => place
  Text.part start (start + length) text

/-- Cuts the first whole number out of a text: its first run of digits, with a hyphen directly before it. -/
def cutNumeral (text : List Char) : Except Text.CutFault (Option (List Char)) :=
  match (Text.places text).find? (·.2.isDigit) with
  | none => .ok none
  | some (digit, _) => do
    let (before, _) ← Text.cut digit text
    -- A hyphen has one byte.
    let start := if before.getLast? == some '-' then digit - 1 else digit
    let numeral ← cutNumeralAt start text
    return some numeral

/-- The first whole number written in a text, if there is one. No cut for it goes through a character. -/
def firstNumeral? (text : List Char) : Option (List Char) :=
  (cutNumeral text).toOption.join

/-- Which strings stand for dates and for whole numbers. -/
structure StringHints where
  date : Option Pattern
  format : DateFormat
  long : Option Pattern

namespace StringHints

def ofConfig (parser : ParserConfig) : Except SetupError StringHints := do
  let setting? (key : String) := parser.properties.setting? key
  let date ← (setting? Property.datePattern).mapM Pattern.whole
  let long ← (setting? Property.longSuffix).mapM Pattern.whole
  let pattern := (setting? Property.dateFormat).getD DateFormat.standardPattern
  let format ← DateFormat.ofPattern pattern (setting? Property.dateTimezone)
  return { date, format, long }

/-- The date that a string stands for. -/
def date? (hints : StringHints) (s : String) : Option Calendar.Instant :=
  if hints.date.any (·.occursIn s) then hints.format.read? s.toList else none

/-- The whole number that a string stands for: what the first group captures, or the first one in the
string if the group captures nothing. -/
def long? (hints : StringHints) (s : String) : Option Int64 := do
  let pattern ← hints.long
  let captures ← pattern.find? s
  let digits ← match captures.group? 1 with
    | some text => some text.toList
    | none => firstNumeral? s.toList
  match Bounds.int64.read digits with
  | .ok n => some (Int64.ofInt n)
  | .error _ => none

/-- The value of a string. Dates come before numbers. -/
def ofString (hints : StringHints) (s : String) : FieldValue :=
  match hints.date? s with
  | some instant => .date instant
  | none =>
    match hints.long? s with
    | some n => .long n
    | none => .string s

mutual

/-- The value of a JSON value. -/
def ofJson (hints : StringHints) : Json.Value → FieldValue
  | .null => .null
  | .bool b => .boolean b
  | .number n => .ofNumber n
  | .string s => hints.ofString s
  | .array items => .array (ofJsonItems hints items)
  | .object members => .object (ofJsonMembers hints members)

def ofJsonItems (hints : StringHints) : List Json.Value → List FieldValue
  | [] => []
  | v :: vs => ofJson hints v :: ofJsonItems hints vs

def ofJsonMembers (hints : StringHints) : List (String × Json.Value) → List (String × FieldValue)
  | [] => []
  | (k, v) :: rest => (k, ofJson hints v) :: ofJsonMembers hints rest

end

/-- Stores the members of a message as fields. -/
def extract (hints : StringHints) (policy : ErrorPolicy) (message : String) (draft : Draft) :
    Except SkipReason Draft :=
  match Json.Value.read message.toList with
  | .ok (.object members) => .ok (draft.storeAll (hints.ofJsonMembers members))
  | .ok other =>
    let kind := other.kind
    policy.onJsonError draft s!"message must be a JSON object, found {kind}"
  | .error fault => policy.onJsonError draft (fault.message message.toList)

/-- A parser of messages that are JSON objects with a core. -/
def toParser (hints : StringHints) (core : ParserCore) : EntryParser where
  core := core
  extract := hints.extract core.policy

/-- The parts of a configured parser of messages that are JSON objects. -/
def build (kind : String) (repository : RepositoryConfig) (parser : ParserConfig)
    (tokenizer : Tokenizer) : Except SetupError (StringHints × ParserCore) := do
  let hints ← ofConfig parser
  let core ← ParserCore.ofConfig repository parser kind tokenizer
  return (hints, core)

end StringHints
end LogIngest

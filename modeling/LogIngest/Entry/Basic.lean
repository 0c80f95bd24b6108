import LogIngest.Dictionary
import LogIngest.Duration
import LogIngest.Entry.SkipReason
import LogIngest.Field.Value
import LogIngest.Severity

/-!
Log entries: as they come in, and as they are stored.
-/

namespace LogIngest

open Calendar (Instant)

/-- An entry as it comes in: texts only. -/
structure RawEntry where
  timestamp : String
  source : String
  host : String
  severity : String
  /-- Fields that the sender has extracted already, as the text of a JSON object. -/
  fields : Option String := none
  message : String
deriving DecidableEq, Repr

namespace RawEntry

/-- The text of a part of the entry. -/
def argument (entry : RawEntry) : Argument → String
  | .timestamp => entry.timestamp
  | .source => entry.source
  | .host => entry.host
  | .severity => entry.severity
  | .message => entry.message

/-- The first part that is blank. -/
def firstBlank? (entry : RawEntry) : Option Argument :=
  [.timestamp, .source, .host, .severity, .message].find? fun a => blank (entry.argument a)

/-- The entry as a JSON object; without fields that member is left out. -/
def toJson (entry : RawEntry) : Json.Value :=
  .object <|
    [("timestamp", .string entry.timestamp), ("source", .string entry.source),
      ("host", .string entry.host), ("severity", .string entry.severity)] ++
    (match entry.fields with
      | some fields => [("fields", .string fields)]
      | none => []) ++
    [("message", .string entry.message)]

end RawEntry

/-- An entry that has been parsed. -/
structure ParsedEntry where
  timestamp : Instant
  source : String
  host : String
  severity : Severity
  message : String
  keywords : List String
  fields : Dictionary FieldValue

/-- A parsed entry with the time at which it was saved. -/
structure SavedEntry where
  entry : ParsedEntry
  savedAt : Instant

namespace SavedEntry

/-- The saved entry as a JSON object. -/
def toJson (saved : SavedEntry) : Json.Value :=
  let entry := saved.entry
  .object [
    ("timestamp", .string entry.timestamp.millisText),
    ("saved_timestamp", .string saved.savedAt.millisText),
    ("source", .string entry.source),
    ("host", .string entry.host),
    ("severity", .string entry.severity.name),
    ("message", .string entry.message),
    ("keywords", .array (entry.keywords.map .string)),
    ("fields", .object (entry.fields.map FieldValue.toJson).entries)]

end SavedEntry

/-- A field that could not be extracted from an entry that was stored all the same. -/
structure FieldFailure where
  field : String
  error : FieldError
deriving DecidableEq, Repr

/-- What a parser makes of an entry that it accepts. -/
structure Result where
  entry : ParsedEntry
  failures : List FieldFailure
  /-- The name of the parser. -/
  parser : String
  /-- The time that parsing took, if it was measured. -/
  elapsed : Option Duration := none

namespace Result

/-- Whether no field failed. -/
def isComplete (result : Result) : Bool :=
  result.failures.isEmpty

end Result

/-- What becomes of an entry: it is stored or skipped. -/
abbrev Outcome := Except SkipReason Result

namespace Outcome

/-- Notes how long parsing took. -/
def timed (outcome : Outcome) (elapsed : Duration) : Outcome :=
  outcome.map fun result => { result with elapsed := some elapsed }

end Outcome
end LogIngest

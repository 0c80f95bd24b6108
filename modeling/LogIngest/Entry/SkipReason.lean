import LogIngest.Calendar.Timestamp
import LogIngest.Config.Error

/-!
Why an entry is not stored.
-/

namespace LogIngest

/-- The parts of an entry that must not be blank, in the order in which they are checked. -/
inductive Argument where
  | timestamp
  | source
  | host
  | severity
  | message
deriving DecidableEq, Repr

namespace Argument

def name : Argument → String
  | timestamp => "timestamp"
  | source => "source"
  | host => "host"
  | severity => "severity"
  | message => "message"

end Argument

inductive SkipReason where
  /-- A part is blank, which is the fault of the sender and not of the data. -/
  | blankArgument (argument : Argument)
  | invalidTimestamp (input : String)
  | field (name : String) (cause : FieldError)
  /-- A text that should be a JSON object is none. -/
  | malformedJson (reason : String)
deriving DecidableEq, Repr

namespace SkipReason

/-- A short name under which reasons are counted. -/
def kind : SkipReason → String
  | blankArgument _ => "BlankArgument"
  | invalidTimestamp _ => "InvalidTimestamp"
  | field _ _ => "Field"
  | malformedJson _ => "Json"

/-- Whether the sender broke its contract. -/
def isContractViolation : SkipReason → Bool
  | blankArgument _ => true
  | _ => false

def message : SkipReason → String
  | blankArgument argument =>
    let name := argument.name
    s!"Required argument '{name}' is blank"
  | invalidTimestamp input =>
    let form := Calendar.Timestamp.description
    s!"Failed to parse timestamp '{input}', expected {form}"
  | field name cause =>
    let reason := cause.message
    s!"Failed to parse field '{name}': {reason}"
  | malformedJson reason => s!"JSON error: {reason}"

end SkipReason
end LogIngest

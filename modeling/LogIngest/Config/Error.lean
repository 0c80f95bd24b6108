import LogIngest.Decimal.Numeral
import LogIngest.Text.Pieces

/-!
Why the value of a field could not be found or converted, and why a repository cannot be set up.
-/

namespace LogIngest

inductive FieldError where
  | missingValue
  | noMatch (pattern : String)
  | positionOutOfRange (position available : Nat)
  | invalidNumber (input expected : String)
  | numberOutOfRange (input expected : String)
  | invalidDate (input format : String)
deriving DecidableEq, Repr

namespace FieldError

def message : FieldError → String
  | missingValue => "No value available"
  | noMatch pattern => s!"Pattern '{pattern}' did not match"
  | positionOutOfRange position available =>
    let position := String.ofList (natText position)
    let available := String.ofList (natText available)
    s!"Position {position} is out of range, line has {available} tokens"
  | invalidNumber input expected => s!"Cannot parse '{input}' as {expected}"
  | numberOutOfRange input expected => s!"Value {input} does not fit in {expected}"
  | invalidDate input format => s!"Cannot parse '{input}' with date format '{format}'"

end FieldError

inductive SetupError where
  | missingProperty (owner property : String)
  | invalidProperty (owner property value : String) (cause : NumeralFault)
  | invalidPosition (field position : String)
  | invalidGroup (field group : String) (available : Nat)
  | invalidPattern (pattern reason : String)
  | invalidDefault (field value : String) (cause : FieldError)
  | invalidDateFormat (format reason : String)
  | invalidNumberFormat (format reason : String)
  /-- A specifier that is no zone. With a fault it is one that cannot even be taken apart, and the program
  ends there. -/
  | invalidTimezone (specifier : String) (stop : Option Text.CutFault := none)
  | unsupportedDataType (name : String)
  | unsupportedOperation (what : String)
  | parserNotFound (id : String)
  | instantiationFailed (parser : String) (cause : SetupError)
  | missingFilter (parser : String)
  | unreadable (path reason : String)
  | malformed (reason : String)
deriving DecidableEq, Repr

namespace SetupError

def message : SetupError → String
  | missingProperty owner property => s!"Missing required property '{property}' for {owner}"
  | invalidProperty owner property value cause =>
    let reason := cause.message
    s!"Invalid value '{value}' for property '{property}' of {owner}: {reason}"
  | invalidPosition field position =>
    s!"Invalid position {position} for field '{field}': positions start at 1"
  | invalidGroup field group available =>
    let available := String.ofList (natText available)
    s!"Capture group '{group}' does not exist for field '{field}' (pattern has {available} groups)"
  | invalidPattern pattern reason => s!"Regex error for pattern '{pattern}': {reason}"
  | invalidDefault field value cause =>
    let reason := cause.message
    s!"Default value '{value}' of field '{field}' cannot be parsed: {reason}"
  | invalidDateFormat format reason => s!"Invalid date format '{format}': {reason}"
  | invalidNumberFormat format reason => s!"Invalid number format '{format}': {reason}"
  | invalidTimezone specifier _ => s!"Unsupported timezone '{specifier}'"
  | unsupportedDataType name => s!"Unsupported data type '{name}'"
  | unsupportedOperation what => s!"Unsupported operation: {what}"
  | parserNotFound id => s!"Parser '{id}' is not registered"
  | instantiationFailed parser cause =>
    let reason := cause.message
    s!"Failed to instantiate parser '{parser}': {reason}"
  | missingFilter parser =>
    s!"Parser '{parser}' uses a filtered mode but has neither a source nor a host filter"
  | unreadable path reason => s!"I/O error reading {path}: {reason}"
  | malformed reason => s!"Malformed configuration document: {reason}"

/-- The fault at which the program ends. An error without such a fault is reported. -/
def stop? : SetupError → Option Text.CutFault
  | invalidTimezone _ stop => stop
  | instantiationFailed _ cause => cause.stop?
  | _ => none

/-- What becomes of something that is set up, unless the program ends there. -/
def settle {α : Type} : Except SetupError α → Except Text.CutFault (Except SetupError α)
  | .ok a => .ok (.ok a)
  | .error error =>
    match error.stop? with
    | some fault => .error fault
    | none => .ok (.error error)

end SetupError
end LogIngest

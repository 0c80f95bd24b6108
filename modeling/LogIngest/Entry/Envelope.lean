import LogIngest.Entry.Basic
import LogIngest.Json.Record

/-!
How entries come in: as lines that are JSON envelopes, or as bare messages with a stamp of the same
origin for all of them.
-/

namespace LogIngest

open Json
open Calendar (Instant)

/-- An entry in transport. The severity may be a code or a name, and the fields an object or its
text. -/
structure Envelope where
  timestamp : String
  source : String
  host : String
  severity : Value
  fields : Option Value
  message : String

namespace Envelope

/-- The members of an envelope given so far. -/
structure Draft where
  timestamp : Option String := none
  source : Option String := none
  host : Option String := none
  severity : Option Value := none
  fields : Option (Option Value) := none
  message : Option String := none

def record : Record Draft Envelope where
  name := "Envelope"
  members := [
    .of "timestamp" Draft.timestamp (fun d x => { d with timestamp := some x }) .string false,
    .of "source" Draft.source (fun d x => { d with source := some x }) .string false,
    .of "host" Draft.host (fun d x => { d with host := some x }) .string false,
    .of "severity" Draft.severity (fun d x => { d with severity := some x }) Decoder.value true,
    .of "fields" Draft.fields (fun d x => { d with fields := some x })
      (.option Decoder.value) true,
    .of "message" Draft.message (fun d x => { d with message := some x }) .string false]
  start := {}
  finish d := do
    let timestamp ← required "timestamp" d.timestamp
    let source ← required "source" d.source
    let host ← required "host" d.host
    let message ← required "message" d.message
    return {
      timestamp, source, host, message
      severity := d.severity.getD .null
      fields := d.fields.getD none }

def decoder : Decoder Envelope :=
  record.decoder

/-- The text of a loosely typed member: a string as it is, nothing for null, and JSON for the rest. -/
def memberText? : Value → Option String
  | .string s => some s
  | .null => none
  | other => some other.text

/-- The entry in the envelope. -/
def toEntry (envelope : Envelope) : RawEntry where
  timestamp := envelope.timestamp
  source := envelope.source
  host := envelope.host
  severity := (memberText? envelope.severity).getD ""
  fields := envelope.fields.bind memberText?
  message := envelope.message

end Envelope

/-- The origin of bare messages. -/
structure Stamp where
  source : String
  host : String
  severity : String
deriving DecidableEq, Repr

/-- The entry of a bare message that comes in at a given time. -/
def Stamp.entry (stamp : Stamp) (now : Instant) (message : String) : RawEntry where
  timestamp := Calendar.Timestamp.write now
  source := stamp.source
  host := stamp.host
  severity := stamp.severity
  message := message

/-- The entry of a line: a bare message if there is a stamp, else an envelope. -/
def RawEntry.ofLine (stamp : Option Stamp) (now : Instant) (line : String) :
    Except Fault RawEntry :=
  match stamp with
  | some stamp => .ok (stamp.entry now line)
  | none => (Envelope.decoder.run line.toList).map Envelope.toEntry

end LogIngest

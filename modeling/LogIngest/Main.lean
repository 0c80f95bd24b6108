import LogIngest.CommandLine.Run
import Std.Time.DateTime.Timestamp

/-!
The program: it reads the files that a command names, carries the command out and prints what it says. It lists
no directories, so patterns are left to the shell; one that is not expanded there matches nothing.
-/

namespace LogIngest.Main

open Calendar (DateTime Instant)
open CommandLine (Command Environment Invocation)
open Files (ReadFault)

/-- What is said of a failure to read a file. The number of an error may have either sign. -/
def readFault (error : IO.Error) : ReadFault :=
  match error with
  | .noFileOrDirectory .. => .missing
  | .inappropriateType _ code _ =>
    if min code (0 - code) = 20 then .notDirectory
    else if min code (0 - code) = 21 then .directory
    else .other (toString error)
  | _ => .other (toString error)

def readFile (path : String) : IO (Except ReadFault ByteArray) := do
  try
    return .ok (← IO.FS.readBinFile path)
  catch error =>
    return .error (readFault error)

def currentInstant : IO Instant := do
  let millis := (← Std.Time.Timestamp.now).toMillisecondsSinceUnixEpoch.toInt
  let start? := DateTime.ofSeconds? (millis / 1000)
  match start?.bind (·.addMillis? (millis % 1000).toNat) with
  | some instant => return instant
  | none => throw (IO.userError "the clock shows no date of the calendar")

/-- Measures how long an entry takes to parse. -/
def measure (repository : Repository) (entry : RawEntry) : IO Duration := do
  let start ← IO.monoNanosNow
  let _ ← IO.wait (Task.spawn fun _ => repository.parse entry)
  let stop ← IO.monoNanosNow
  return .ofMicros ((stop - start) / 1000)

/-- Measures how long the entries of a command take to parse. -/
def measureAll (command : Command) (environment : Environment) : IO (Array Duration) := do
  match command.work environment with
  | .error _ => return #[]
  | .ok (repository, entries) => entries.toArray.mapM (measure repository)

/-- Carries out a command and returns the exit code. -/
def carryOut (command : Command) : IO UInt32 := do
  let paths := command.config :: command.files
  let contents ← paths.mapM fun path => return (path, ← readFile path)
  let environment : Environment := {
    tree := fun _ => {}
    read := fun path => (contents.lookup path).getD (.error .missing)
    now := ← currentInstant }
  let times ← measureAll command environment
  let transcript := command.run { environment with elapsed := fun i => times.getD i 0 }
  for line in transcript.output do
    IO.println line
  for line in transcript.errors do
    IO.eprintln line
  if let some failure := transcript.failure then
    IO.eprintln failure.report
  return transcript.exitCode.toUInt32

end LogIngest.Main

def main (arguments : List String) : IO UInt32 := do
  match LogIngest.CommandLine.Invocation.ofArguments arguments with
  | .ok invocation => LogIngest.Main.carryOut invocation.command
  | .error refusal =>
    if refusal.isAnswer then IO.println refusal.message else IO.eprintln refusal.message
    return refusal.exitCode.toUInt32

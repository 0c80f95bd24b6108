import LogIngest.CommandLine.Environment
import LogIngest.Entry.Envelope

/-!
The entries in the files that a command is given.
-/

namespace LogIngest.CommandLine

open Files (Located Readout)
open Calendar (Instant)

/-- A line as the entry that it holds, or why it holds none. -/
abbrev DecodedLine := Located (Except String RawEntry)

/-- The entries of lines. -/
def decodeLine (stamp : Option Stamp) (now : Instant) (line : Located String) : DecodedLine :=
  line.map fun text =>
    (RawEntry.ofLine stamp now text).mapError fun fault => fault.message text.toList

/-- Reads the lines of files and the entries that they hold. -/
def readEntries (environment : Environment) (stamp : Option Stamp) (files : List String) :
    Readout DecodedLine :=
  (Files.readLines environment.read files).map (decodeLine stamp environment.now)

namespace DecodedLine

/-- The entry of a line that holds one. -/
def entry? (line : DecodedLine) : Option RawEntry :=
  line.value.toOption

/-- The report of a line that holds no entry. -/
def complaint (line : Located String) : String :=
  "malformed " ++ line.position ++ " not an entry envelope: " ++ line.value

/-- The report of a line if it holds no entry. -/
def complaint? (line : DecodedLine) : Option String :=
  match line.value with
  | .ok _ => none
  | .error reason => some (complaint (line.map fun _ => reason))

end DecodedLine
end LogIngest.CommandLine

import LogIngest.CommandLine.Command
import LogIngest.CommandLine.Input
import LogIngest.Repository
import LogIngest.Statistics.Report

/-!
The command that parses files and lists the stored entries. What is malformed or skipped is reported,
and a line of statistics ends the reports.
-/

namespace LogIngest.CommandLine

open Files (Located Readout)
open Calendar (Instant)

/-- What becomes of a line. -/
inductive LineResult where
  | malformed (reason : String)
  /-- The line holds an entry, which took some time to parse. -/
  | parsed (outcome : Outcome) (elapsed : Duration)

/-- Parses the entries of lines. So many entries came before, and the entry at each position takes a
given time. -/
def parseLines (parse : RawEntry → Outcome) (elapsed : Nat → Duration) :
    Nat → List DecodedLine → List (Located LineResult)
  | _, [] => []
  | before, line :: rest =>
    match line.value with
    | .error reason =>
      line.map (fun _ => .malformed reason) :: parseLines parse elapsed before rest
    | .ok entry =>
      let time := elapsed before
      line.map (fun _ => .parsed ((parse entry).timed time) time) ::
        parseLines parse elapsed (before + 1) rest

namespace LineResult

/-- The report of a line if it is malformed or its entry is skipped. -/
def complaint? (line : Located LineResult) : Option String :=
  match line.value with
  | .malformed reason => some (DecodedLine.complaint (line.map fun _ => reason))
  | .parsed (.error reason) _ =>
    some ("skipped " ++ line.position ++ " [" ++ reason.kind ++ "] " ++ reason.message)
  | .parsed (.ok _) _ => none

/-- The entry of a line if it is stored. -/
def stored? (line : Located LineResult) : Option ParsedEntry :=
  match line.value with
  | .parsed (.ok result) _ => some result.entry
  | _ => none

/-- Counts what becomes of a line; malformed lines do not count. -/
def count (statistics : Statistics) (line : Located LineResult) : Statistics :=
  match line.value with
  | .malformed _ => statistics
  | .parsed outcome elapsed => statistics.record outcome elapsed

end LineResult

namespace ParseOptions

/-- The entries that are listed, of those that are stored. -/
def listed {α : Type} (options : ParseOptions) (stored : List α) : List α :=
  match options.limit with
  | some limit => stored.take limit
  | none => stored

/-- The lines in which entries are listed. An array is printed only when everything has been read. -/
def entryLines (options : ParseOptions) (stored : List SavedEntry) (complete : Bool) :
    List String :=
  match options.listing with
  | .json => if complete then [Listing.json.text (options.listed stored)] else []
  | listing => (options.listed stored).map listing.line

/-- The statistics of some lines. -/
def statistics (results : List (Located LineResult)) : Statistics :=
  results.foldl LineResult.count {}

/-- What the command prints about the lines it has read. -/
def transcript (options : ParseOptions) (now : Instant)
    (results : Readout (Located LineResult)) : Transcript :=
  let stored := (results.items.filterMap LineResult.stored?).map fun entry =>
    { entry, savedAt := now : SavedEntry }
  let complaints := results.items.filterMap LineResult.complaint?
  { output := options.listing.header ++ options.entryLines stored results.fault.isNone
    errors := complaints ++
      if results.fault.isNone then [(statistics results.items).statusLine] else []
    failure := results.fault.map .file }

/-- The repository and the files of the command. -/
def prepare (options : ParseOptions) (environment : Environment) :
    Except Failure (Repository × List String) := do
  let config ← environment.config options.config
  let repository ← (Repository.build {} config).mapError .ofSetup
  return (repository, ← environment.files options.files)

/-- Carries out the command. -/
def run (options : ParseOptions) (environment : Environment) : Transcript :=
  match options.prepare environment with
  | .error failure => .failed failure
  | .ok (_, []) => .noFiles
  | .ok (repository, files) =>
    let lines := readEntries environment options.stamp files
    options.transcript environment.now {
      items := parseLines repository.parse environment.elapsed 0 lines.items
      fault := lines.fault }

end ParseOptions
end LogIngest.CommandLine

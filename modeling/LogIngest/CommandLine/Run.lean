import LogIngest.CommandLine.Command
import LogIngest.CommandLine.Environment
import LogIngest.CommandLine.Input
import LogIngest.CommandLine.Parse
import LogIngest.Pool.Basic
import LogIngest.Repository
import LogIngest.Statistics.Document
import LogIngest.Statistics.Report

/-!
Carrying out commands. Statistics come from running the entries of files through a pool; a validation builds every
parser of a repository and reports those that cannot be built.
-/

/-! ### Statistics of files -/

namespace LogIngest.CommandLine.StatsOptions

/-- The lines in which statistics are printed. -/
def statisticsLines (options : StatsOptions) (statistics : Statistics) (malformed : Nat) :
    List String :=
  if options.asJson then [statistics.toJson.prettyText]
  else statistics.summaryLines malformed ++ ["", "Details"] ++ statistics.reportLines

/-- The configuration and the files of the command. -/
def prepare (options : StatsOptions) (environment : Environment) :
    Except Failure (RepositoryConfig × List String) := do
  let config ← environment.config options.config
  return (config, ← environment.files options.files)

/-- Runs entries through a pool for a repository. -/
def statistics (options : StatsOptions) (environment : Environment) (config : RepositoryConfig)
    (entries : List RawEntry) : Except Failure Statistics := do
  let pool ← (Pool.build {} config { workers := options.workers }).mapError .ofSetup
  let (report, _) ←
    (pool.run entries environment.processors environment.elapsed).mapError .ofSetup
  return report.statistics

/-- Carries out the command. -/
def run (options : StatsOptions) (environment : Environment) : Transcript :=
  match options.prepare environment with
  | .error failure => .failed failure
  | .ok (_, []) => .noFiles
  | .ok (config, files) =>
    let lines := readEntries environment options.stamp files
    let errors := lines.items.filterMap DecodedLine.complaint?
    match lines.fault with
    | some fault => { errors, failure := some (.file fault) }
    | none =>
      let entries := lines.items.filterMap DecodedLine.entry?
      match options.statistics environment config entries with
      | .error failure => { errors, failure := some failure }
      | .ok statistics =>
        { output := options.statisticsLines statistics errors.length, errors }

end LogIngest.CommandLine.StatsOptions

/-! ### Validation -/

namespace LogIngest.CommandLine.Validate

/-- The line of a parser. -/
def line (name : String) : Except SetupError String → String
  | .ok kind => "  ✓ " ++ name ++ " (" ++ kind ++ ")"
  | .error error => "  ✗ " ++ name ++ ": " ++ error.message

/-- Carries out the command on a configuration. -/
def check (config : RepositoryConfig) : Transcript :=
  let all := config.parsers.length
  let title := "Repository " ++ config.name ++ s!" ({all} parsers)"
  match Registry.validation {} config with
  | .error fault => { output := [title], failure := some (.stopped fault) }
  | .ok items =>
    let broken := (items.filter fun item => !item.2.isOk).length
    let output := title :: items.map fun (name, outcome) => line name outcome
    if 0 < broken then { output, failure := some (.brokenParsers broken all) }
    else
      match Repository.build {} config with
      | .error error => { output, failure := some (.ofSetup error) }
      | .ok _ => { output := output ++ ["Configuration is valid"] }

/-- Carries out the command. -/
def run (path : String) (environment : Environment) : Transcript :=
  match environment.config path with
  | .error failure => .failed failure
  | .ok config => check config

end LogIngest.CommandLine.Validate

/-! ### All commands -/

namespace LogIngest.CommandLine.Command

/-- Carries out a command. -/
def run (command : Command) (environment : Environment) : Transcript :=
  match command with
  | .parse options => options.run environment
  | .validate config => Validate.run config environment
  | .stats options => options.run environment

/-- The path of the configuration. -/
def config : Command → String
  | .parse options => options.config
  | .validate config => config
  | .stats options => options.config

/-- The arguments that stand for files with entries. -/
def files : Command → List String
  | .parse options => options.files
  | .validate _ => []
  | .stats options => options.files

/-- The origin of the lines that a command reads; none if they are envelopes. -/
def stamp : Command → Option Stamp
  | .parse options => options.stamp
  | .validate _ => none
  | .stats options => options.stamp

/-- The repository of a command and the entries that it parses. -/
def work (command : Command) (environment : Environment) :
    Except Failure (Repository × List RawEntry) := do
  let config ← environment.config command.config
  let repository ← (Repository.build {} config).mapError .ofSetup
  let lines := readEntries environment command.stamp (← environment.files command.files)
  return (repository, lines.items.filterMap DecodedLine.entry?)

end LogIngest.CommandLine.Command

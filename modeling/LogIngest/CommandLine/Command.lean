import LogIngest.CommandLine.Grammar
import LogIngest.Decimal.Numeral
import LogIngest.Entry.Envelope
import LogIngest.Entry.Listing

/-!
The commands and their arguments.
-/

namespace LogIngest.CommandLine

/-- Parse files and list what is stored. -/
structure ParseOptions where
  config : String
  /-- Paths, and patterns that stand for paths. -/
  files : List String
  /-- The origin of the lines; none if they are envelopes. -/
  stamp : Option Stamp
  listing : Listing
  /-- How many stored entries are listed at most. -/
  limit : Option Nat
deriving DecidableEq, Repr

/-- Parse files and print statistics. -/
structure StatsOptions where
  config : String
  /-- Paths, and patterns that stand for paths. -/
  files : List String
  /-- The origin of the lines; none if they are envelopes. -/
  stamp : Option Stamp
  /-- The number of workers; zero for one on each processor. -/
  workers : Nat
  /-- Whether the statistics are printed as JSON. -/
  asJson : Bool
deriving DecidableEq, Repr

inductive Command where
  | parse (options : ParseOptions)
  /-- Build the parsers of a repository and report those that cannot be built. -/
  | validate (config : String)
  | stats (options : StatsOptions)
deriving DecidableEq, Repr

structure Invocation where
  verbose : Bool
  command : Command
deriving DecidableEq, Repr

/-- The origin of bare lines of which nothing else is said. -/
def standardStamp : Stamp where
  source := "cli"
  host := "localhost"
  severity := "6"

/-- The arguments of a command that have been read so far. -/
structure Draft where
  verbose : Bool := false
  config : Option String := none
  files : List String := []
  raw : Bool := false
  source : Option String := none
  host : Option String := none
  severity : Option String := none
  listing : Option Listing := none
  limit : Option Nat := none
  workers : Option Nat := none
  asJson : Bool := false

namespace Draft

/-- The origin of the lines that the arguments give. -/
def stamp (draft : Draft) : Option Stamp :=
  if draft.raw then
    some {
      source := draft.source.getD standardStamp.source
      host := draft.host.getD standardStamp.host
      severity := draft.severity.getD standardStamp.severity }
  else none

/-- The configuration, which has to be given. -/
def requiredConfig (draft : Draft) : Except Refusal String :=
  match draft.config with
  | some config => .ok config
  | none => .error .missingArgument

/-- The files, of which there has to be one. -/
def requiredFiles (draft : Draft) : Except Refusal (List String) :=
  if draft.files.isEmpty then .error .missingArgument else .ok draft.files

end Draft

namespace Rule

/-- A path, which must not be empty. -/
def path (value : String) : Except Refusal String :=
  if value.isEmpty then .error (.wrongValue value) else .ok value

/-- A count that fits in 64 bits. -/
def count (value : String) : Except Refusal Nat :=
  match Bounds.word64.read value.toList with
  | .ok n => .ok n.toNat
  | .error _ => .error (.unreadableValue value)

/-- The name of a listing. -/
def listing (value : String) : Except Refusal Listing :=
  match Listing.ofName? value with
  | some listing => .ok listing
  | none => .error (.wrongValue value)

/-- An option that sets a member of the draft once. -/
def ofMember {α : Type} (long : String) (short : Option Char) (get : Draft → Option α)
    (put : Draft → α → Draft) (read : String → Except Refusal α) : OptionRule Draft where
  long := long
  short := short
  action := .value (fun d => (get d).isSome) fun d value => (read value).map (put d)

def config : OptionRule Draft :=
  ofMember "config" 'c' Draft.config (fun d x => { d with config := some x }) path

/-- The options of every command and of the program itself. -/
def common : List (OptionRule Draft) := [
  { long := "verbose", short := 'v'
    action := .flag Draft.verbose fun d => { d with verbose := true } },
  { long := "help", short := 'h', action := .answer .help },
  { long := "version", short := 'V', action := .answer .version }]

def raw : OptionRule Draft where
  long := "raw"
  short := none
  action := .flag Draft.raw fun d => { d with raw := true }

/-- Takes one more file. -/
def file (draft : Draft) (value : String) : Except Refusal Draft :=
  (path value).map fun file => { draft with files := draft.files ++ [file] }

end Rule

namespace Grammar

/-- The options before the command. -/
def program : Grammar Draft where
  options := Rule.common
  positional := none

def parse : Grammar Draft where
  options := Rule.common ++ [
    Rule.config,
    Rule.raw,
    Rule.ofMember "source" none Draft.source (fun d x => { d with source := some x }) .ok,
    Rule.ofMember "host" none Draft.host (fun d x => { d with host := some x }) .ok,
    Rule.ofMember "severity" none Draft.severity (fun d x => { d with severity := some x }) .ok,
    Rule.ofMember "format" 'f' Draft.listing (fun d x => { d with listing := some x })
      Rule.listing,
    Rule.ofMember "limit" 'n' Draft.limit (fun d x => { d with limit := some x }) Rule.count]
  positional := Rule.file

def validate : Grammar Draft where
  options := Rule.common ++ [Rule.config]
  positional := none

def stats : Grammar Draft where
  options := Rule.common ++ [
    Rule.config,
    Rule.raw,
    Rule.ofMember "parallel" 'j' Draft.workers (fun d x => { d with workers := some x })
      Rule.count,
    { long := "json", short := none
      action := .flag Draft.asJson fun d => { d with asJson := true } }]
  positional := Rule.file

end Grammar

/-- The names of commands. -/
inductive CommandName where
  | parse
  | validate
  | stats
  | help
deriving DecidableEq, Repr

namespace CommandName

def ofText? : String → Option CommandName
  | "parse" => some parse
  | "validate" => some validate
  | "stats" => some stats
  | "help" => some help
  | _ => none

/-- Reads the arguments after the name of a command. -/
def read (name : CommandName) (arguments : List String) : Except Refusal Invocation := do
  match name with
  | parse =>
    let draft ← Grammar.parse.read {} arguments
    let config ← draft.requiredConfig
    let files ← draft.requiredFiles
    return {
      verbose := draft.verbose
      command := .parse {
        config, files
        stamp := draft.stamp
        listing := draft.listing.getD .table
        limit := draft.limit } }
  | validate =>
    let draft ← Grammar.validate.read {} arguments
    return { verbose := draft.verbose, command := .validate (← draft.requiredConfig) }
  | stats =>
    let draft ← Grammar.stats.read {} arguments
    let config ← draft.requiredConfig
    let files ← draft.requiredFiles
    return {
      verbose := draft.verbose
      command := .stats {
        config, files
        stamp := draft.stamp
        workers := draft.workers.getD 0
        asJson := draft.asJson } }
  | help =>
    match arguments with
    | [] => throw .help
    | [about] => throw (if (ofText? about).isSome then .help else .unknownCommand about)
    | about :: next :: _ =>
      throw (.unknownCommand (if (ofText? about).isSome then next else about))

end CommandName

namespace Invocation

/-- Reads the arguments of the program, given the options before the command read so far. -/
def readFrom (draft : Draft) : List String → Except Refusal Invocation
  | [] => .error (if draft.verbose then .missingCommand else .nothingGiven)
  | argument :: rest =>
    match CommandName.ofText? argument with
    | some name => (name.read rest).map fun invocation =>
        { invocation with verbose := draft.verbose || invocation.verbose }
    | none =>
      match Shape.ofArgument argument with
      | .separator =>
        match rest with
        | [] => readFrom draft []
        | value :: _ => .error <|
          if (CommandName.ofText? value).isSome then .unknownArgument value
          else .unknownCommand value
      | .long name value => do
        let (draft, _) ← Grammar.program.takeLong draft .nothing name value
        readFrom draft rest
      | .cluster letters => do
        let (draft, _) ← Grammar.program.takeCluster draft .nothing letters
        readFrom draft rest
      | .plain => .error (.unknownCommand argument)

/-- Reads the arguments of the program. -/
def ofArguments (arguments : List String) : Except Refusal Invocation :=
  readFrom {} arguments

end Invocation
end LogIngest.CommandLine

import LogIngest.Config.Names
import LogIngest.Parser.Delimited
import LogIngest.Parser.Document
import LogIngest.Parser.Matching

/-!
The strategies that need no registration: to keep messages as they are, to cut them at a delimiter, to
match them against patterns, and to read them as JSON.
-/

namespace LogIngest

inductive Strategy where
  | default
  | delimited
  | regex
  | json
deriving DecidableEq, Repr, Inhabited

namespace Strategy

def all : List Strategy :=
  [default, delimited, regex, json]

/-- The identifier of the strategy. -/
def id : Strategy → String
  | default => "default"
  | delimited => "delimited"
  | regex => "regex"
  | json => "json"

/-- The identifiers that stand for the strategy, in the form in which names are compared. -/
def aliases (strategy : Strategy) : List String :=
  [strategy.id, strategy.id ++ "parser", strategy.id ++ "entryparser"]

/-- Finds the strategy of an identifier in any spelling. -/
def ofId? (id : String) : Option Strategy :=
  all.find? fun strategy => strategy.aliases.contains (foldedName id)

/-- A configured parser of the strategy. -/
def build (strategy : Strategy) (repository : RepositoryConfig) (parser : ParserConfig)
    (tokenizer : Tokenizer) : Except SetupError EntryParser :=
  match strategy with
  | default =>
    (ParserCore.ofConfig repository parser default.id tokenizer).map EntryParser.passThrough
  | delimited =>
    (Delimited.build delimited.id repository parser tokenizer).map fun (format, core) => format.toParser core
  | regex =>
    (Matching.build regex.id repository parser tokenizer).map fun (format, core) => format.toParser core
  | json =>
    (StringHints.build json.id repository parser tokenizer).map fun (hints, core) => hints.toParser core

end Strategy
end LogIngest

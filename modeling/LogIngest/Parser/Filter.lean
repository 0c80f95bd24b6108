import LogIngest.Config.Repository
import LogIngest.Pattern.Basic
import LogIngest.Text.Pieces

/-!
Filters: which entries a parser applies to, by their source and their host.
-/

namespace LogIngest

/-- A condition on the source or the host of an entry. -/
inductive Filter where
  /-- To be one of some names, which are in lower case. -/
  | names (names : List String)
  | pattern (pattern : Pattern)

namespace Filter

/-- A name as it is compared: without white space around it and in lower case. -/
def plainName (name : List Char) : String :=
  String.ofList (Text.lower (Text.trim name))

/-- The names of a list that is separated by commas. Empty items are no names. -/
def namesOf (list : String) : List String :=
  ((Text.split [','] list.toList).map plainName).filter fun name => name != ""

/-- The filter of a configuration, unless it is blank. -/
def ofConfig (mode : FilterMode) (text : Option String) : Except SetupError (Option Filter) :=
  match text.map trimmed with
  | none | some "" => .ok none
  | some text =>
    match mode with
    | .all => .ok none
    | .names => .ok (some (names (namesOf text)))
    | .pattern => (Pattern.whole text).map fun p => some (pattern p)

/-- Whether a source or a host passes. -/
def accepts : Filter → String → Bool
  | names list, value => list.contains (plainName value.toList)
  | pattern p, value => p.occursIn value

end Filter

/-- The entries that a parser applies to: all, or those whose source or host passes a filter. -/
inductive Applicability where
  | all
  | filtered (source host : Option Filter)

namespace Applicability

/-- The applicability of a configured parser. A filtered one needs a filter. -/
def ofConfig (parser : ParserConfig) : Except SetupError Applicability :=
  match parser.mode with
  | .all => .ok all
  | mode => do
    let source ← Filter.ofConfig mode parser.sourceFilter
    let host ← Filter.ofConfig mode parser.hostFilter
    if source.isNone && host.isNone then throw (.missingFilter parser.name)
    else return filtered source host

/-- Whether the parser applies to entries of a source and a host. -/
def holds : Applicability → (source host : String) → Bool
  | all, _, _ => true
  | filtered sourceFilter hostFilter, source, host =>
    sourceFilter.any (·.accepts source) || hostFilter.any (·.accepts host)

end Applicability
end LogIngest

import LogIngest.Parser.Strategy

/-!
The registry of strategies, and repositories built with it. Strategies can be registered under identifiers of
their own; they come before those that need no registration. A repository has its parsers in order and finds the
one that an entry goes to.
-/

namespace LogIngest

/-- How a registered strategy builds a configured parser. -/
abbrev Constructor :=
  RepositoryConfig → ParserConfig → Tokenizer → Except SetupError EntryParser

structure Registry where
  extensions : Dictionary Constructor := ∅
  tokenizer : Tokenizer := Keywords.words

namespace Registry

/-- A registry with another tokenizer. -/
def withTokenizer (registry : Registry) (tokenizer : Tokenizer) : Registry :=
  { registry with tokenizer := tokenizer }

/-- Registers a strategy in place of one with the same identifier. -/
def register (registry : Registry) (id : String) (constructor : Constructor) : Registry :=
  { registry with extensions := registry.extensions.insert id constructor }

/-- The registered strategy of an identifier; white space around it does not count. -/
def extension? (registry : Registry) (id : String) : Option Constructor :=
  registry.extensions.get? (trimmed id)

/-- Whether an identifier stands for a strategy. -/
def isRegistered (registry : Registry) (id : String) : Bool :=
  (registry.extension? id).isSome || (Strategy.ofId? id).isSome

/-- Builds a configured parser. -/
def build (registry : Registry) (repository : RepositoryConfig) (parser : ParserConfig) :
    Except SetupError EntryParser :=
  let id := trimmed parser.strategy
  match registry.extension? parser.strategy with
  | some constructor =>
    (constructor repository parser registry.tokenizer).mapError (.instantiationFailed id)
  | none =>
    match Strategy.ofId? id with
    | some strategy => strategy.build repository parser registry.tokenizer
    | none => .error (.parserNotFound id)

/-- The parser of entries to which no other applies. -/
def fallback (registry : Registry) (repository : String) (budget : Int32) : EntryParser :=
  EntryParser.passThrough {
    name := "default"
    repository
    kind := Strategy.default.id
    applicability := .all
    maxKeywords := budget
    policy := .skipField
    tokenizer := registry.tokenizer }

/-- What every parser of a repository is built to: the kind of its strategy, or why it cannot be
built. -/
def validate (registry : Registry) (config : RepositoryConfig) :
    List (String × Except SetupError String) :=
  config.parsers.map fun parser =>
    (parser.name, (registry.build config parser).map EntryParser.kind)

/-- The validation as it is carried out. It comes to nothing if the program ends while a parser is built. -/
def validation (registry : Registry) (config : RepositoryConfig) :
    Except Text.CutFault (List (String × Except SetupError String)) :=
  (registry.validate config).mapM fun (name, outcome) =>
    (SetupError.settle outcome).map fun outcome => (name, outcome)

end Registry

/-! ### Repositories -/

structure Repository where
  name : String
  parsers : List EntryParser
  /-- The parser of entries to which no other applies. -/
  fallback : EntryParser

namespace Repository

/-- Builds all the parsers of a repository. One that cannot be built keeps it from starting. -/
def build (registry : Registry) (config : RepositoryConfig) : Except SetupError Repository := do
  let parsers ← config.parsers.mapM (registry.build config)
  return {
    name := config.name
    parsers
    fallback := registry.fallback config.name config.maxKeywords }

/-- The first parser that applies to entries of a source and a host. -/
def select (repository : Repository) (source host : String) : EntryParser :=
  (repository.parsers.find? (·.appliesTo source host)).getD repository.fallback

/-- Parses an entry with the parser it goes to. -/
def parse (repository : Repository) (entry : RawEntry) : Outcome :=
  (repository.select entry.source entry.host).parse entry

end Repository
end LogIngest

import LogIngest.Config.Names
import LogIngest.Config.Properties

/-!
Configurations of repositories: an ordered list of parsers, each with its own fields.
-/

namespace LogIngest

/-- A field that a parser extracts. -/
structure FieldConfig where
  name : String
  dataType : DataType
  properties : Properties := ∅
deriving DecidableEq

/-- A parser: which strategy it uses, which entries it applies to, and what it extracts. -/
structure ParserConfig where
  name : String
  /-- The identifier of the strategy. -/
  strategy : String := "default"
  mode : FilterMode := .all
  sourceFilter : Option String := none
  hostFilter : Option String := none
  policy : ErrorPolicy := .skipField
  /-- The budget of keywords, when it differs from that of the repository. -/
  maxKeywords : Option Int32 := none
  properties : Properties := ∅
  fields : List FieldConfig := []
deriving DecidableEq

/-- A repository of log entries. -/
structure RepositoryConfig where
  name : String
  maxKeywords : Int32
  parsers : List ParserConfig := []
deriving DecidableEq

/-- The budget of keywords of a repository that sets none. -/
def standardBudget : Int32 := 100

namespace FieldConfig

/-- Sets a property. -/
def withProperty (field : FieldConfig) (key value : String) : FieldConfig :=
  { field with properties := field.properties.insert key value }

end FieldConfig

namespace ParserConfig

/-- Sets a property. -/
def withProperty (parser : ParserConfig) (key value : String) : ParserConfig :=
  { parser with properties := parser.properties.insert key value }

/-- Adds a field behind the others. -/
def withField (parser : ParserConfig) (field : FieldConfig) : ParserConfig :=
  { parser with fields := parser.fields ++ [field] }

def withPolicy (parser : ParserConfig) (policy : ErrorPolicy) : ParserConfig :=
  { parser with policy := policy }

def withFilters (parser : ParserConfig) (mode : FilterMode) (source host : Option String) :
    ParserConfig :=
  { parser with mode := mode, sourceFilter := source, hostFilter := host }

def withMaxKeywords (parser : ParserConfig) (budget : Int32) : ParserConfig :=
  { parser with maxKeywords := some budget }

end ParserConfig

namespace RepositoryConfig

/-- A repository without parsers and with the standard budget. -/
def named (name : String) : RepositoryConfig where
  name := name
  maxKeywords := standardBudget

/-- Adds a parser behind the others. -/
def withParser (config : RepositoryConfig) (parser : ParserConfig) : RepositoryConfig :=
  { config with parsers := config.parsers ++ [parser] }

/-- The budget of keywords of a parser: its own, or that of the repository. -/
def budget (config : RepositoryConfig) (parser : ParserConfig) : Int32 :=
  parser.maxKeywords.getD config.maxKeywords

end RepositoryConfig
end LogIngest

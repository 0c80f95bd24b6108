import LogIngest.Config.Repository
import LogIngest.Json.Record

/-!
Configurations as JSON documents: how they are read, and how they are written.
-/

namespace LogIngest

open Json

/-- Reads a name and finds what it stands for. -/
def nameDecoder {α : Type} (ofName : String → Except SetupError α) : Decoder α :=
  Decoder.string.interpret fun name => (ofName name).mapError SetupError.message

def Properties.decoder : Decoder Properties :=
  (Decoder.dictionary Decoder.value).interpret Properties.ofValues

/-- Reads a budget of keywords. -/
def budgetDecoder : Decoder Int32 := fun levels text =>
  (Decoder.integer "i32" .int32 levels text).map fun (n, rest) => (Int32.ofInt n, rest)

namespace FieldConfig

/-- The members of a field given so far. -/
structure Draft where
  name : Option String := none
  dataType : Option DataType := none
  properties : Option Properties := none

def record : Record Draft FieldConfig where
  name := "RepositoryFieldConfig"
  members := [
    .of "name" Draft.name (fun d x => { d with name := some x }) .string false,
    .of "data_type" Draft.dataType (fun d x => { d with dataType := some x })
      (nameDecoder DataType.ofName) false,
    .of "properties" Draft.properties (fun d x => { d with properties := some x })
      Properties.decoder true]
  start := {}
  finish d := do
    let name ← required "name" d.name
    let dataType ← required "data_type" d.dataType
    return { name, dataType, properties := d.properties.getD ∅ }

def decoder : Decoder FieldConfig :=
  record.decoder

/-- The field as a JSON object; without properties that member is left out. -/
def toJson (field : FieldConfig) : Value :=
  .object <|
    [("name", .string field.name), ("data_type", .string field.dataType.name)] ++
    (if field.properties.isEmpty then [] else [("properties", Properties.toJson field.properties)])

end FieldConfig

namespace ParserConfig

/-- The members of a parser given so far. -/
structure Draft where
  name : Option String := none
  strategy : Option String := none
  mode : Option FilterMode := none
  sourceFilter : Option (Option String) := none
  hostFilter : Option (Option String) := none
  policy : Option ErrorPolicy := none
  maxKeywords : Option (Option Int32) := none
  properties : Option Properties := none
  fields : Option (List FieldConfig) := none

def record : Record Draft ParserConfig where
  name := "RepositoryParserConfig"
  members := [
    .of "name" Draft.name (fun d x => { d with name := some x }) .string false,
    .of "parser" Draft.strategy (fun d x => { d with strategy := some x }) .string true,
    .of "mode" Draft.mode (fun d x => { d with mode := some x })
      (nameDecoder FilterMode.ofName) true,
    .of "source_filter" Draft.sourceFilter (fun d x => { d with sourceFilter := some x })
      (.option .string) true,
    .of "host_filter" Draft.hostFilter (fun d x => { d with hostFilter := some x })
      (.option .string) true,
    .of "error_policy" Draft.policy (fun d x => { d with policy := some x })
      (nameDecoder ErrorPolicy.ofName) true,
    .of "max_keywords" Draft.maxKeywords (fun d x => { d with maxKeywords := some x })
      (.option budgetDecoder) true,
    .of "properties" Draft.properties (fun d x => { d with properties := some x })
      Properties.decoder true,
    .of "fields" Draft.fields (fun d x => { d with fields := some x })
      (.list FieldConfig.decoder) true]
  start := {}
  finish d := do
    let name ← required "name" d.name
    return {
      name
      strategy := d.strategy.getD "default"
      mode := d.mode.getD .all
      sourceFilter := d.sourceFilter.getD none
      hostFilter := d.hostFilter.getD none
      policy := d.policy.getD .skipField
      maxKeywords := d.maxKeywords.getD none
      properties := d.properties.getD ∅
      fields := d.fields.getD [] }

def decoder : Decoder ParserConfig :=
  record.decoder

/-- A member that is left out when there is no value. -/
def optionalMember (key : String) (value : Option Value) : List (String × Value) :=
  match value with
  | some v => [(key, v)]
  | none => []

/-- The parser as a JSON object; absent filters, budget and properties are left out. -/
def toJson (parser : ParserConfig) : Value :=
  .object <|
    [("name", .string parser.name), ("parser", .string parser.strategy),
      ("mode", .string parser.mode.name)] ++
    optionalMember "source_filter" (parser.sourceFilter.map .string) ++
    optionalMember "host_filter" (parser.hostFilter.map .string) ++
    [("error_policy", .string parser.policy.name)] ++
    optionalMember "max_keywords" (parser.maxKeywords.map fun n => .ofInt n.toInt) ++
    (if parser.properties.isEmpty then []
      else [("properties", Properties.toJson parser.properties)]) ++
    [("fields", .array (parser.fields.map FieldConfig.toJson))]

end ParserConfig

namespace RepositoryConfig

/-- The members of a repository given so far. -/
structure Draft where
  name : Option String := none
  maxKeywords : Option Int32 := none
  parsers : Option (List ParserConfig) := none

def record : Record Draft RepositoryConfig where
  name := "RepositoryConfig"
  members := [
    .of "name" Draft.name (fun d x => { d with name := some x }) .string false,
    .of "max_keywords" Draft.maxKeywords (fun d x => { d with maxKeywords := some x })
      budgetDecoder true,
    .of "parsers" Draft.parsers (fun d x => { d with parsers := some x })
      (.list ParserConfig.decoder) true]
  start := {}
  finish d := do
    let name ← required "name" d.name
    return {
      name
      maxKeywords := d.maxKeywords.getD standardBudget
      parsers := d.parsers.getD [] }

def decoder : Decoder RepositoryConfig :=
  record.decoder

/-- The repository as a JSON object. -/
def toJson (config : RepositoryConfig) : Value :=
  .object [
    ("name", .string config.name),
    ("max_keywords", .ofInt config.maxKeywords.toInt),
    ("parsers", .array (config.parsers.map ParserConfig.toJson))]

/-- Reads a repository from the text of a document. -/
def ofText (text : String) : Except SetupError RepositoryConfig :=
  match decoder.run text.toList with
  | .ok config => .ok config
  | .error fault => .error (.malformed (fault.message text.toList))

end RepositoryConfig
end LogIngest

import LogIngest.Field.Converter
import LogIngest.Parser.Basic

/-!
Delimited messages: the message is cut at a delimiter, and fields are the tokens at their positions,
counted from one.
-/

namespace LogIngest

/-- A field at a position, counted from zero. -/
structure PositionedField where
  index : Nat
  converter : FieldConverter

namespace PositionedField

/-- The position of a configured field. -/
def indexOf (field : FieldConfig) : Except SetupError Nat :=
  let name := field.name
  let owner := s!"field '{name}'"
  match field.properties.natural? Property.position owner with
  | .ok (some (index + 1)) => .ok index
  | .ok none => .error (.missingProperty owner Property.position)
  | _ =>
    .error (.invalidPosition name ((field.properties.setting? Property.position).getD ""))

def ofConfig (field : FieldConfig) : Except SetupError PositionedField := do
  let index ← indexOf field
  let converter ← FieldConverter.ofConfig field
  return { index, converter }

/-- The value of the field among some tokens. -/
def read (field : PositionedField) (tokens : List String) : Except FieldError FieldValue :=
  match tokens[field.index]? with
  | some token => field.converter.read (some token)
  | none => .error (.positionOutOfRange (field.index + 1) tokens.length)

end PositionedField

/-- How delimited messages are read. -/
structure Delimited where
  delimiter : String
  fields : List PositionedField

namespace Delimited

/-- The delimiter that a setting stands for. It writes a tab as `\t` and a space as `\s`. -/
def unescape (setting : String) : String :=
  String.ofList <|
    Text.replace "\\s".toList [' '] (Text.replace "\\t".toList ['\t'] setting.toList)

def ofConfig (parser : ParserConfig) : Except SetupError Delimited := do
  let name := parser.name
  let setting ← parser.properties.require Property.delimiter s!"parser '{name}'"
  let fields ← parser.fields.mapM PositionedField.ofConfig
  return { delimiter := unescape setting, fields }

/-- The tokens of a message. -/
def tokens (format : Delimited) (message : String) : List String :=
  (Text.split format.delimiter.toList message.toList).map String.ofList

/-- The fields of a message, each with its value or why it has none. -/
def outcomes (format : Delimited) (message : String) :
    List (String × Except FieldError FieldValue) :=
  let tokens := format.tokens message
  format.fields.map fun field => (field.converter.name, field.read tokens)

/-- A parser of delimited messages with a core. -/
def toParser (format : Delimited) (core : ParserCore) : EntryParser where
  core := core
  extract message draft := core.policy.applyFields draft (format.outcomes message)

/-- The parts of a configured parser of delimited messages. -/
def build (kind : String) (repository : RepositoryConfig) (parser : ParserConfig)
    (tokenizer : Tokenizer) : Except SetupError (Delimited × ParserCore) := do
  let format ← ofConfig parser
  let core ← ParserCore.ofConfig repository parser kind tokenizer
  return (format, core)

end Delimited
end LogIngest

import LogIngest.Field.Converter
import LogIngest.Parser.Basic

/-!
Messages read by patterns: fields are what groups capture, in a match of the whole message by a pattern
that fields share, or in a match anywhere in the message by a pattern of their own.
-/

namespace LogIngest

/-- The pattern in whose match a field is found. -/
inductive FieldSource where
  | own (pattern : Pattern)
  | shared

/-- A field that a group captures. -/
structure CapturedField where
  source : FieldSource
  group : Nat
  converter : FieldConverter

namespace CapturedField

/-- The pattern of a configured field, and whether it is the shared one. -/
def sourceOf (shared : Option Pattern) (field : FieldConfig) :
    Except SetupError (FieldSource × Pattern) :=
  match field.properties.setting? Property.pattern, shared with
  | some source, _ => (Pattern.anywhere source).map fun pattern => (.own pattern, pattern)
  | none, some pattern => .ok (.shared, pattern)
  | none, none =>
    let name := field.name
    .error (.missingProperty s!"field '{name}'" Property.pattern)

def ofConfig (shared : Option Pattern) (field : FieldConfig) : Except SetupError CapturedField := do
  let (source, pattern) ← sourceOf shared field
  let group ← pattern.group field.name (field.properties.setting? Property.group)
  let converter ← FieldConverter.ofConfig field
  return { source, group, converter }

end CapturedField

/-- How messages are read by patterns. -/
structure Matching where
  pattern : Option Pattern
  fields : List CapturedField

namespace Matching

def ofConfig (parser : ParserConfig) : Except SetupError Matching := do
  let pattern ← (parser.properties.setting? Property.pattern).mapM Pattern.whole
  let fields ← parser.fields.mapM (CapturedField.ofConfig pattern)
  return { pattern, fields }

/-- The value of a field, given a match of the pattern it belongs to. A group that took no part in the
match leaves the field without a text. -/
def read (field : CapturedField) (pattern : String) (captures : Option Pattern.Captures) :
    Except FieldError FieldValue :=
  match captures with
  | some captures => field.converter.read (captures.group? field.group)
  | none => .error (.noMatch pattern)

/-- The fields of a message, each with its value or why it has none. -/
def outcomes (format : Matching) (message : String) :
    List (String × Except FieldError FieldValue) :=
  let captures := format.pattern.bind (·.find? message)
  format.fields.map fun field =>
    (field.converter.name,
      match field.source with
      | .own pattern => read field pattern.source (pattern.find? message)
      | .shared => read field ((format.pattern.map Pattern.source).getD "") captures)

/-- A parser of messages by patterns with a core. -/
def toParser (format : Matching) (core : ParserCore) : EntryParser where
  core := core
  extract message draft := core.policy.applyFields draft (format.outcomes message)

/-- The parts of a configured parser of messages by patterns. -/
def build (kind : String) (repository : RepositoryConfig) (parser : ParserConfig)
    (tokenizer : Tokenizer) : Except SetupError (Matching × ParserCore) := do
  let format ← ofConfig parser
  let core ← ParserCore.ofConfig repository parser kind tokenizer
  return (format, core)

end Matching
end LogIngest

import LogIngest.Config.Repository
import LogIngest.Field.Conversion
import LogIngest.Pattern.Basic

/-!
Converters of fields: from the text that was found for a field, or from none, to its value. The text may
first be narrowed: cut down to a group of a pattern.
-/

namespace LogIngest

structure Narrowing where
  pattern : Pattern
  group : Nat

namespace Narrowing

/-- The narrowing that a field is configured with, if any. -/
def ofConfig (field : FieldConfig) : Except SetupError (Option Narrowing) :=
  match field.properties.setting? Property.preparsePattern with
  | none => .ok none
  | some source => do
    let pattern ← Pattern.anywhere source
    let group ← pattern.group field.name (field.properties.setting? Property.preparseGroup)
    return some { pattern, group }

/-- What the group captures in a text, or the whole text if it captures nothing. -/
def apply (narrowing : Narrowing) (text : String) : String :=
  ((narrowing.pattern.find? text).bind (·.group? narrowing.group)).getD text

end Narrowing

/-- A field as it is configured: its text is narrowed and converted, and where that yields no value the
default stands in. -/
structure FieldConverter where
  name : String
  narrowing : Option Narrowing
  conversion : Conversion
  default : Option FieldValue

namespace FieldConverter

def dataType (converter : FieldConverter) : DataType :=
  converter.conversion.dataType

/-- What is left of a text to convert. -/
def narrow (converter : FieldConverter) (text : String) : String :=
  match converter.narrowing with
  | some narrowing => narrowing.apply text
  | none => text

/-- The value of the field without a default. -/
def readStrictly (converter : FieldConverter) (text : Option String) :
    Except FieldError FieldValue :=
  match text with
  | some text => converter.conversion.convert (converter.narrow text)
  | none => .error .missingValue

/-- Whether the default stands in for a text without an attempt to convert it. -/
def passesOver (converter : FieldConverter) (text : Option String) : Bool :=
  text.any fun text => converter.conversion.ignores (converter.narrow text)

/-- The value of the field, given the text that was found for it. -/
def read (converter : FieldConverter) (text : Option String) : Except FieldError FieldValue :=
  match converter.default with
  | none => converter.readStrictly text
  | some value =>
    if converter.passesOver text then .ok value
    else
      match converter.readStrictly text with
      | .ok found => .ok found
      | .error _ => .ok value

/-- The value of a default, which has to be convertible itself. -/
def defaultValue (field : FieldConfig) (conversion : Conversion) :
    Except SetupError (Option FieldValue) :=
  match field.properties.setting? Property.defaultValue with
  | none => .ok none
  | some text =>
    match conversion.convert text with
    | .ok value => .ok (some value)
    | .error cause => .error (.invalidDefault field.name text cause)

/-- The default of a truth value: the word true in any case is true, and all else and nothing false. -/
def defaultTruth (field : FieldConfig) : FieldValue :=
  let text := field.properties.setting? Property.defaultValue
  .boolean (text.any fun text =>
    Text.sameIgnoringAsciiCase (Text.trim text.toList) "true".toList)

/-- The texts that are true unless a pattern is configured. -/
def standardTruth : String := "(?i)true"

/-- A converter of numbers. -/
def number (field : FieldConfig) (type : NumberType) : Except SetupError FieldConverter := do
  let format ← (field.properties.setting? Property.numberFormat).mapM NumberFormat.ofPattern
  let narrowing ← Narrowing.ofConfig field
  let conversion := Conversion.number type format
  let default ← defaultValue field conversion
  return { name := field.name, narrowing, conversion, default }

/-- The converter of a field. -/
def ofConfig (field : FieldConfig) : Except SetupError FieldConverter :=
  let setting? (key : String) : Option String := field.properties.setting? key
  match field.dataType with
  | .string => do
    let narrowing ← Narrowing.ofConfig field
    let default ← defaultValue field .text
    return { name := field.name, narrowing, conversion := .text, default }
  | .integer => number field .integer
  | .long => number field .long
  | .double => number field .double
  | .boolean => do
    let narrowing ← Narrowing.ofConfig field
    let pattern ← Pattern.whole ((setting? Property.truePattern).getD standardTruth)
    return {
      name := field.name
      narrowing
      conversion := .truth pattern
      default := some (defaultTruth field) }
  | .date => do
    let pattern := (setting? Property.dateFormat).getD DateFormat.standardPattern
    let format ← DateFormat.ofPattern pattern (setting? Property.dateTimezone)
    let conversion := Conversion.date format
    let default ← defaultValue field conversion
    let narrowing ← Narrowing.ofConfig field
    return { name := field.name, narrowing, conversion, default }

end FieldConverter
end LogIngest

import LogIngest.Config.Error
import LogIngest.Dictionary
import LogIngest.Json.Writer
import LogIngest.Text.Blank

/-!
Properties: the settings of parsers and fields, texts under names. A blank setting counts as none.
-/

namespace LogIngest

abbrev Properties := Dictionary String

/-! The names of the properties that parsers and fields understand. -/
namespace Property

def delimiter := "delimiter"
def position := "position"
def pattern := "pattern"
def group := "group"
def defaultValue := "default_value"
def numberFormat := "number_format"
def dateFormat := "date_format"
def dateTimezone := "date_timezone"
def truePattern := "true_pattern"
def preparsePattern := "preparse_pattern"
def preparseGroup := "preparse_pattern_group"
def datePattern := "date_pattern"
def longSuffix := "long_suffix"

end Property

namespace Properties

/-- The setting under a name, unless it is blank. -/
def setting? (properties : Properties) (key : String) : Option String :=
  (Dictionary.get? properties key).filter fun value => !blank value

/-- The setting under a name, which has to be there. -/
def require (properties : Properties) (key owner : String) : Except SetupError String :=
  match properties.setting? key with
  | some value => .ok value
  | none => .error (.missingProperty owner key)

/-- The setting under a name as a natural number. -/
def natural? (properties : Properties) (key owner : String) : Except SetupError (Option Nat) :=
  match properties.setting? key with
  | none => .ok none
  | some value =>
    match Bounds.word64.read (Text.trim value.toList) with
    | .ok n => .ok (some n.toNat)
    | .error cause => .error (.invalidProperty owner key value cause)

/-- The text of a setting given as a JSON value. Null means no setting, and only scalars have a
text. -/
def textOf (key : String) : Json.Value → Except String (Option String)
  | .null => .ok none
  | .string s => .ok (some s)
  | .bool b => .ok (some (Json.Value.bool b).text)
  | .number n => .ok (some (Json.Value.number n).text)
  | other =>
    let text := other.text
    .error s!"property '{key}' must be a scalar, found {text}"

/-- The properties given as JSON values, or why the first bad one is none. -/
def ofValues (values : Dictionary Json.Value) : Except String Properties := do
  let settings ← values.entries.mapM fun (key, value) => do
    return (← textOf key value).map (key, ·)
  return .ofList (settings.filterMap id)

/-- The properties as a JSON object. -/
def toJson (properties : Properties) : Json.Value :=
  .object (properties.entries.map fun (key, value) => (key, .string value))

end Properties
end LogIngest

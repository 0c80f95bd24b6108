import LogIngest.Config.Error
import LogIngest.Text.Blank
import LogIngest.Text.Lowercase

/-!
Names in configurations. They are compared without regard to case, white space, underscores and
hyphens.
-/

namespace LogIngest

/-- What counts of a name: its characters in lower case, without separators. -/
def foldedName (name : String) : String :=
  let kept := (Text.trim name.toList).filter fun c =>
    c != '_' && c != '-' && !Text.isBlankChar c
  String.ofList (kept.flatMap Text.lowerChar)

/-- The types of field values that a configuration can ask for. -/
inductive DataType where
  | string
  | integer
  | long
  | double
  | boolean
  | date
deriving DecidableEq, Repr, Inhabited

namespace DataType

def name : DataType → String
  | string => "string"
  | integer => "integer"
  | long => "long"
  | double => "double"
  | boolean => "boolean"
  | date => "date"

/-- Finds the type of a name in any spelling. -/
def ofName (name : String) : Except SetupError DataType :=
  match foldedName name with
  | "string" => .ok string
  | "integer" | "int" => .ok integer
  | "long" => .ok long
  | "double" => .ok double
  | "boolean" | "bool" => .ok boolean
  | "date" => .ok date
  | _ => .error (.unsupportedDataType name)

end DataType

/-- To which entries a parser applies: to all, or to those whose source or host is in a list of names
or matches a pattern. -/
inductive FilterMode where
  | all
  | names
  | pattern
deriving DecidableEq, Repr, Inhabited

namespace FilterMode

def name : FilterMode → String
  | all => "all"
  | names => "filtered_csv"
  | pattern => "filtered_regex"

/-- Finds the mode of a name in any spelling. -/
def ofName (name : String) : Except SetupError FilterMode :=
  match foldedName name with
  | "all" => .ok all
  | "filteredcsv" | "csv" => .ok names
  | "filteredregex" | "regex" => .ok pattern
  | _ => .error (.unsupportedOperation s!"unknown applicability mode '{name}'")

end FilterMode

/-- What becomes of an entry when one of its fields fails: it is kept and the failure noted, it is
rejected, or it is kept and the failure forgotten. -/
inductive ErrorPolicy where
  | skipField
  | skipEntry
  | ignoreError
deriving DecidableEq, Repr, Inhabited

namespace ErrorPolicy

def name : ErrorPolicy → String
  | skipField => "skip_field"
  | skipEntry => "skip_entry"
  | ignoreError => "skip_field_ignore_error"

/-- Finds the policy of a name in any spelling. -/
def ofName (name : String) : Except SetupError ErrorPolicy :=
  match foldedName name with
  | "skipfield" => .ok skipField
  | "skipentry" => .ok skipEntry
  | "skipfieldignoreerror" => .ok ignoreError
  | _ => .error (.unsupportedOperation s!"unknown error handling policy '{name}'")

end ErrorPolicy
end LogIngest

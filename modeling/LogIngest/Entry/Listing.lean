import LogIngest.Entry.Basic
import LogIngest.Text.Pieces

/-!
How stored entries are listed: as lines for people, as one JSON array, or as one JSON object a line.
-/

namespace LogIngest

inductive Listing where
  | table
  | json
  | ndjson
deriving DecidableEq, Repr

namespace Listing

def all : List Listing := [table, json, ndjson]

def name : Listing → String
  | table => "table"
  | json => "json"
  | ndjson => "ndjson"

def ofName? (name : String) : Option Listing :=
  all.find? (·.name == name)

/-- The fields of an entry, each with its value. -/
def fieldsText (fields : Dictionary FieldValue) : String :=
  " ".intercalate (fields.entries.map fun (name, value) => name ++ "=" ++ value.text)

/-- The line of an entry for people. -/
def tableLine (entry : ParsedEntry) : String :=
  entry.timestamp.millisText ++ " [" ++ Text.centre 11 entry.severity.name ++ "] " ++
    entry.source ++ "@" ++ entry.host ++ " " ++ entry.message ++
    (if entry.fields.isEmpty then "" else " " ++ fieldsText entry.fields)

/-- An entry by itself. -/
def line (listing : Listing) (saved : SavedEntry) : String :=
  match listing with
  | table => tableLine saved.entry
  | json | ndjson => saved.toJson.text

/-- Several entries: an array where entries are elements of one, else a line for each. -/
def text (listing : Listing) (entries : List SavedEntry) : String :=
  match listing with
  | json => Json.Value.prettyText (.array (entries.map SavedEntry.toJson))
  | table | ndjson => "\n".intercalate (entries.map listing.line)

/-- What stands above the entries: a rule above lines for people. -/
def header : Listing → List String
  | table => [Text.bar '─' 100]
  | json | ndjson => []

end Listing
end LogIngest

import LogIngest.Json.Decoder
import LogIngest.Json.Skipping

/-!
Records: objects with known keys, each with a value of its own type. A record may also be written as an
array of its values in order. Members of other keys are passed over.
-/

namespace LogIngest.Json

/-- One member of a record that is collected in a draft of type `δ`. -/
structure Member (δ : Type) where
  key : String
  /-- Whether the draft already has the member. -/
  given : δ → Bool
  /-- Reads the value of the member into a draft. -/
  read : δ → Decoder δ
  /-- Whether a record written as an array may end before the member. -/
  mayLack : Bool

namespace Member

variable {α δ : Type}

/-- The member whose place in the draft is optional. -/
def of (key : String) (get : δ → Option α) (put : δ → α → δ) (decoder : Decoder α)
    (mayLack : Bool) : Member δ where
  key := key
  given d := (get d).isSome
  read d levels text := (decoder levels text).map fun (a, rest) => (put d a, rest)
  mayLack := mayLack

end Member

/-- A type of records: its name, its members in order, the draft in which nothing is given, and the
record that a draft makes. -/
structure Record (δ α : Type) where
  name : String
  members : List (Member δ)
  start : δ
  finish : δ → Except Cause α

/-- The value of a member that has to be given. -/
def required {α : Type} (key : String) : Option α → Except Cause α
  | some a => .ok a
  | none => .error (.missingMember key)

namespace Record

variable {α δ : Type}

/-- Reads the values of a record written as an array. `index` values have been read. -/
def readPositions (expected : String) (levels : Nat) :
    List (Member δ) → (index : Nat) → δ → List Char → Except Fault (δ × List Char)
  | [], _, draft, text => .ok (draft, text)
  | member :: members, index, draft, text => do
    match ← nextElement (member.read draft levels) (index == 0) text with
    | (some draft, rest) => readPositions expected levels members (index + 1) draft rest
    | (none, rest) =>
      if member.mayLack then readPositions expected levels members (index + 1) draft rest
      else refuse (.wrongLength index expected) rest

/-- Reads the next member of a record into the draft. -/
def readMember (members : List (Member δ)) (levels : Nat) (draft : δ) (key : String)
    (text : List Char) : Except Fault (δ × List Char) := do
  match members.find? (·.key == key) with
  | none => return (draft, ← skipValue (← readColon text))
  | some member =>
    if member.given draft then refuse (.repeatedMember key) text
    else member.read draft levels (← readColon text)

/-- Reads the members of a record up to its end. The bound is on their number. -/
def readDraft (members : List (Member δ)) (levels : Nat) :
    Nat → Bool → δ → List Char → Except Fault (δ × List Char)
  | 0, _, draft, text => .ok (draft, text)
  | bound + 1, first, draft, text => do
    match ← nextKey first text with
    | (none, rest) => return (draft, rest)
    | (some key, rest) =>
      let (draft, rest) ← readMember members levels draft (String.ofList key) rest
      readDraft members levels bound false draft rest

/-- Makes the record of a draft; what is missing is a fault of meaning. -/
def close (record : Record δ α) (step : Step δ) : Step α :=
  match step with
  | .error fault => .error fault
  | .ok (draft, rest) =>
    match record.finish draft with
    | .ok a => .ok (a, rest)
    | .error cause => refuse cause rest

/-- What is expected of a record written as an array. -/
def shape (record : Record δ α) : String :=
  let count := record.members.length
  "struct " ++ record.name ++ " with " ++ String.ofList (natText count) ++
    (if count == 1 then " element" else " elements")

/-- The reader of records. -/
def decoder (record : Record δ α) : Decoder α := fun levels text =>
  match skipSpace text with
  | [] => stopPast .eofValue []
  | '[' :: rest =>
    match levels with
    | 0 => stopPast .tooDeep ('[' :: rest)
    | levels + 1 =>
      within leaveArray <| record.close <|
        readPositions record.shape levels record.members 0 record.start rest
  | '{' :: rest =>
    match levels with
    | 0 => stopPast .tooDeep ('{' :: rest)
    | levels + 1 =>
      within leaveObject <| record.close <|
        readDraft record.members levels (rest.length + 1) true record.start rest
  | rest => stopWrongType ("struct " ++ record.name) rest

end Record
end LogIngest.Json

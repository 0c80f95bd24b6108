import LogIngest.Calendar.DateTime
import LogIngest.Decimal.Layout
import LogIngest.Json.Writer

/-!
Values of fields: those that JSON has, whole numbers by their size, and dates.
-/

namespace LogIngest

open Calendar (Instant)

/-- The value of a field. The members of an object are in increasing order of their keys. -/
inductive FieldValue where
  | string (s : String)
  | integer (n : Int32)
  | long (n : Int64)
  | double (x : Float)
  | boolean (b : Bool)
  | date (instant : Instant)
  | null
  | array (items : List FieldValue)
  | object (members : List (String × FieldValue))
deriving Inhabited

namespace FieldValue

/-- The smallest type of value that holds a number. -/
def ofNumber : Json.Number → FieldValue
  | .integer n =>
    if Bounds.int32.admits n then integer (Int32.ofInt n)
    else if Bounds.int64.admits n then long (Int64.ofInt n)
    else double (Float.ofInt n)
  | .double x => double x

mutual

/-- The value of a JSON value. -/
def ofJson : Json.Value → FieldValue
  | .null => null
  | .bool b => boolean b
  | .number n => ofNumber n
  | .string s => string s
  | .array items => array (ofJsonItems items)
  | .object members => object (ofJsonMembers members)

def ofJsonItems : List Json.Value → List FieldValue
  | [] => []
  | v :: vs => ofJson v :: ofJsonItems vs

def ofJsonMembers : List (String × Json.Value) → List (String × FieldValue)
  | [] => []
  | (k, v) :: rest => (k, ofJson v) :: ofJsonMembers rest

end

mutual

/-- The value as JSON. Dates become strings. -/
def toJson : FieldValue → Json.Value
  | string s => .string s
  | integer n => .ofInt n.toInt
  | long n => .ofInt n.toInt
  | double x => .number (.double x)
  | boolean b => .bool b
  | date instant => .string instant.millisText
  | null => .null
  | array items => .array (toJsonItems items)
  | object members => .object (toJsonMembers members)

def toJsonItems : List FieldValue → List Json.Value
  | [] => []
  | v :: vs => toJson v :: toJsonItems vs

def toJsonMembers : List (String × FieldValue) → List (String × Json.Value)
  | [] => []
  | (k, v) :: rest => (k, toJson v) :: toJsonMembers rest

end

/-- The name of the type of the value. -/
def typeName : FieldValue → String
  | string _ => "string"
  | integer _ => "integer"
  | long _ => "long"
  | double _ => "double"
  | boolean _ => "boolean"
  | date _ => "date"
  | null => "null"
  | array _ => "array"
  | object _ => "object"

/-- The text of a string value. -/
def string? : FieldValue → Option String
  | string s => some s
  | _ => none

/-- The text of the value. Arrays and objects are shown as JSON, strings as they are. -/
def text : FieldValue → String
  | string s => s
  | integer n => String.ofList (intText n.toInt)
  | long n => String.ofList (intText n.toInt)
  | double x => String.ofList (FloatLayout.plain.text x)
  | boolean b => String.ofList (Json.boolText b)
  | date instant => instant.millisText
  | null => "null"
  | array items => (toJson (array items)).text
  | object members => (toJson (object members)).text

end FieldValue
end LogIngest

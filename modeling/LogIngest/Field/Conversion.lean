import LogIngest.Calendar.Format
import LogIngest.Config.Names
import LogIngest.Field.Value
import LogIngest.Number.Format
import LogIngest.Pattern.Basic

/-!
Conversions of texts to values of a data type.
-/

namespace LogIngest

/-- The types of numbers. -/
inductive NumberType where
  | integer
  | long
  | double
deriving DecidableEq, Repr

namespace NumberType

def dataType : NumberType → DataType
  | integer => .integer
  | long => .long
  | double => .double

/-- The name of the type in messages. -/
def name (type : NumberType) : String :=
  type.dataType.name

def outOfRange (type : NumberType) (text : String) : FieldError :=
  .numberOutOfRange text type.name

def invalid (type : NumberType) (text : String) : FieldError :=
  .invalidNumber text type.name

/-- The value of a whole number that stands for a text. -/
def ofInt (type : NumberType) (text : String) (n : Int) : Except FieldError FieldValue :=
  match type with
  | integer =>
    if Bounds.int32.admits n then .ok (.integer (Int32.ofInt n)) else .error (type.outOfRange text)
  | long =>
    if Bounds.int64.admits n then .ok (.long (Int64.ofInt n)) else .error (type.outOfRange text)
  | double => .ok (.double (Float.ofInt n))

/-- Reads a whole number of at most 64 bits. -/
def readWhole (type : NumberType) (text : String) : Except FieldError Int :=
  match Bounds.int64.read text.toList with
  | .ok n => .ok n
  | .error .tooLarge | .error .tooSmall => .error (type.outOfRange text)
  | .error _ => .error (type.invalid text)

/-- Converts a number written without a format. -/
def ofPlain (type : NumberType) (text : String) : Except FieldError FieldValue :=
  match type with
  | double =>
    match readDouble? text.toList with
    | some x => .ok (.double x)
    | none => .error (type.invalid text)
  | _ => type.readWhole text >>= type.ofInt text

/-- Converts a number read by a format. The whole types drop what is behind the point. -/
def ofAmount (type : NumberType) (text : String) (amount : Amount) : Except FieldError FieldValue :=
  match type, amount with
  | double, amount => .ok (.double amount.toFloat)
  | _, .whole n => type.ofInt text n.toInt
  | _, .fractional x =>
    match (Binary.ofFloat x).truncate? with
    | some n => type.ofInt text n
    | none => .error (type.outOfRange text)

end NumberType

/-- How the text of a field becomes a value. -/
inductive Conversion where
  /-- The text as it is. -/
  | text
  | number (type : NumberType) (format : Option NumberFormat)
  /-- Whether the text matches. -/
  | truth (pattern : Pattern)
  | date (format : DateFormat)

namespace Conversion

/-- The data type of the values. -/
def dataType : Conversion → DataType
  | text => .string
  | number type _ => type.dataType
  | truth _ => .boolean
  | date _ => .date

/-- Converts a text. White space around numbers does not count. -/
def convert (conversion : Conversion) (input : String) : Except FieldError FieldValue :=
  match conversion with
  | text => .ok (.string input)
  | number type none => type.ofPlain (trimmed input)
  | number type (some format) => format.read (trimmed input) >>= type.ofAmount (trimmed input)
  | truth pattern => .ok (.boolean (pattern.occursIn input))
  | date format => (format.read input).map .date

/-- Whether the conversion makes nothing of a text: blank texts are no values of string fields if there
is something else to take. -/
def ignores (conversion : Conversion) (input : String) : Bool :=
  match conversion with
  | text => blank input
  | _ => false

end Conversion
end LogIngest

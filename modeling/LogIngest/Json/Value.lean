/-!
Values of JSON documents.
-/

namespace LogIngest.Json

/-- A number keeps the way it was written: whole numbers of up to 64 bits stay whole, all others are
doubles. -/
inductive Number where
  | integer (n : Int)
  | double (x : Float)
deriving Repr, Inhabited

/-- A JSON value. The members of an object have an order: that of their keys in a value that was
read, that of the declaration in a value made for writing. -/
inductive Value where
  | null
  | bool (b : Bool)
  | number (n : Number)
  | string (s : String)
  | array (items : List Value)
  | object (members : List (String × Value))
deriving Repr, Inhabited

namespace Value

/-- The name of the kind of a value. -/
def kind : Value → String
  | null => "null"
  | bool _ => "boolean"
  | number _ => "number"
  | string _ => "string"
  | array _ => "array"
  | object _ => "object"

/-- A whole number as a value. -/
def ofInt (n : Int) : Value :=
  number (.integer n)

end Value
end LogIngest.Json

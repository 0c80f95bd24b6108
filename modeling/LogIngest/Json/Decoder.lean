import LogIngest.Json.Reader

/-!
Readers of texts that hold a value of a known type. Where a value of another type stands, its text is
still read, so that it can be named.
-/

namespace LogIngest.Json

variable {α β : Type}

/-- A reader of a type, told how many containers may still be opened. -/
abbrev Decoder (α : Type) := (levels : Nat) → List Char → Except Fault (α × List Char)

/-- Reads the value that stands in place of an expected one, and stops behind it. -/
def stopWrongType (expected : String) (text : List Char) : Except Fault α :=
  let found (what : Found) (rest : List Char) : Except Fault α :=
    stopAt (.wrongType what expected) rest
  match text with
  | [] => stopPast .expectedValue []
  | 'n' :: rest => readWord "ull".toList rest >>= found .null
  | 't' :: rest => readWord "rue".toList rest >>= found (.bool true)
  | 'f' :: rest => readWord "alse".toList rest >>= found (.bool false)
  | '"' :: rest => readString rest >>= fun (s, rest) => found (.string s) rest
  | '-' :: rest => readNumber false rest >>= fun (n, rest) => found (.number n) rest
  | '[' :: _ => found .array text
  | '{' :: _ => found .object text
  | c :: _ =>
    if c.isDigit then readNumber true text >>= fun (n, rest) => found (.number n) rest
    else stopPast .expectedValue text

namespace Decoder

/-- Reads any value. -/
def value : Decoder Value :=
  readValue

def string : Decoder String := fun _ text =>
  match skipSpace text with
  | [] => stopPast .eofValue []
  | '"' :: rest => (readString rest).map fun (s, rest) => (String.ofList s, rest)
  | rest => stopWrongType "a string" rest

/-- Reads a number and hands it to a function that takes it or says why not. -/
def number (expected : String) (accept : Number → Except Cause α) : Decoder α := fun _ text =>
  let judge (n : Number) (rest : List Char) : Step α :=
    match accept n with
    | .ok a => .ok (a, rest)
    | .error cause => stopAt cause rest
  match skipSpace text with
  | [] => stopPast .eofValue []
  | '-' :: rest => readNumber false rest >>= fun (n, rest) => judge n rest
  | c :: rest =>
    if c.isDigit then readNumber true (c :: rest) >>= fun (n, rest) => judge n rest
    else stopWrongType expected (c :: rest)

/-- Reads a whole number within bounds. -/
def integer (expected : String) (bounds : Bounds) : Decoder Int :=
  number expected fun n =>
    match n with
    | .integer i =>
      if bounds.admits i then .ok i else .error (.unfitValue (.number n) expected)
    | .double _ => .error (.wrongType (.number n) expected)

def natural (expected : String) : Decoder Nat := fun levels text =>
  (integer expected .word64 levels text).map fun (n, rest) => (n.toNat, rest)

/-- Reads a double; whole numbers are rounded to one. -/
def double : Decoder Float :=
  number "f64" fun n =>
    match n with
    | .integer i => .ok (Float.ofInt i)
    | .double x => .ok x

/-- Reads a value or null. -/
def option (decoder : Decoder α) : Decoder (Option α) := fun levels text =>
  match skipSpace text with
  | 'n' :: rest => (readWord "ull".toList rest).map (none, ·)
  | rest => (decoder levels rest).map fun (a, rest) => (some a, rest)

/-- Reads an array of values of one type. -/
def list (decoder : Decoder α) : Decoder (List α) := fun levels text =>
  match skipSpace text with
  | [] => stopPast .eofValue []
  | '[' :: rest =>
    match levels with
    | 0 => stopPast .tooDeep ('[' :: rest)
    | levels + 1 => readElements (decoder levels) rest
  | rest => stopWrongType "a sequence" rest

/-- Reads an object with values of one type under any keys; the last of several members of one key
counts. -/
def dictionary (decoder : Decoder α) : Decoder (Dictionary α) := fun levels text =>
  match skipSpace text with
  | [] => stopPast .eofValue []
  | '{' :: rest =>
    match levels with
    | 0 => stopPast .tooDeep ('{' :: rest)
    | levels + 1 =>
      (readMembers (decoder levels) rest).map fun (members, rest) => (.ofList members, rest)
  | rest => stopWrongType "a map" rest

/-- Gives what was read a meaning, or refuses it. -/
def interpret (decoder : Decoder α) (meaning : α → Except String β) : Decoder β :=
  fun levels text => do
    let (a, rest) ← decoder levels text
    match meaning a with
    | .ok b => return (b, rest)
    | .error reason => refuse (.refused reason) rest

/-- Reads a whole text. -/
def run (decoder : Decoder α) (text : List Char) : Except Fault α :=
  readWhole (decoder maxDepth) text

end Decoder
end LogIngest.Json

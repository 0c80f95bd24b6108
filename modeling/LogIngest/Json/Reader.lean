import LogIngest.Dictionary
import LogIngest.Json.Lexeme

/-!
Reading JSON values. Containers may be nested to a limit, which the readers of values carry along as
the number of levels that may still be opened.
-/

namespace LogIngest.Json

variable {α β : Type}

/-- The number of containers that may be open at the same time. -/
def maxDepth : Nat := 127

/-- Leaves an array: the closing bracket is due. -/
def leaveArray (text : List Char) : Except Fault (List Char) :=
  match skipSpace text with
  | [] => stopPast .eofList []
  | ']' :: rest => .ok rest
  | ',' :: rest =>
    match skipSpace rest with
    | ']' :: rest => stopPast .trailingComma (']' :: rest)
    | rest => stopPast .trailingCharacters rest
  | rest => stopPast .trailingCharacters rest

/-- Leaves an object: the closing brace is due. -/
def leaveObject (text : List Char) : Except Fault (List Char) :=
  match skipSpace text with
  | [] => stopPast .eofObject []
  | '}' :: rest => .ok rest
  | ',' :: rest => stopPast .trailingComma (',' :: rest)
  | rest => stopPast .trailingCharacters rest

/-- Where the reader stands after an attempt to leave a container. -/
def standing : Except Fault (List Char) → List Char
  | .ok rest => rest
  | .error fault => fault.rest

/-- Leaves the container whose body has been read. A fault of meaning in the body is placed behind the
container. -/
def within (leave : List Char → Except Fault (List Char)) (body : Step α) : Step α :=
  match body with
  | .ok (a, rest) => (leave rest).map (a, ·)
  | .error fault => .error (fault.place (standing (leave fault.rest)))

/-- Reads the next element of an array, or nothing before its end. -/
def nextElement (element : List Char → Step α) (first : Bool) (text : List Char) :
    Step (Option α) :=
  let read (text : List Char) : Step (Option α) :=
    (element text).map fun (a, rest) => (some a, rest)
  match skipSpace text with
  | [] => stopPast .eofList []
  | ']' :: rest => .ok (none, ']' :: rest)
  | rest =>
    if first then read rest
    else match rest with
      | ',' :: rest =>
        match skipSpace rest with
        | [] => stopPast .eofValue []
        | ']' :: rest => stopPast .trailingComma (']' :: rest)
        | rest => read rest
      | rest => stopPast .expectedCommaOrBracket rest

/-- Reads the next key of an object, or nothing before its end. -/
def nextKey (first : Bool) (text : List Char) : Step (Option (List Char)) :=
  let read (text : List Char) : Step (Option (List Char)) :=
    (readString text).map fun (key, rest) => (some key, rest)
  match skipSpace text with
  | [] => stopPast .eofObject []
  | '}' :: rest => .ok (none, '}' :: rest)
  | rest =>
    if first then
      match rest with
      | '"' :: rest => read rest
      | rest => stopPast .keyNotString rest
    else match rest with
      | ',' :: rest =>
        match skipSpace rest with
        | [] => stopPast .eofValue []
        | '"' :: rest => read rest
        | '}' :: rest => stopPast .trailingComma ('}' :: rest)
        | rest => stopPast .keyNotString rest
      | rest => stopPast .expectedCommaOrBrace rest

/-- Reads the colon between a key and its value. -/
def readColon (text : List Char) : Except Fault (List Char) :=
  match skipSpace text with
  | [] => stopPast .eofObject []
  | ':' :: rest => .ok rest
  | rest => stopPast .expectedColon rest

/-- Reads the next member of an object, or nothing before its end. -/
def nextMember (value : List Char → Step α) (first : Bool) (text : List Char) :
    Except Fault (Option (String × α) × List Char) := do
  match ← nextKey first text with
  | (none, rest) => return (none, rest)
  | (some key, rest) =>
    let (a, rest) ← value (← readColon rest)
    return (some (String.ofList key, a), rest)

/-- Reads the elements of an array after its opening bracket. -/
def readElements (element : List Char → Step α) (text : List Char) : Step (List α) :=
  within leaveArray (collect (nextElement element) (text.length + 1) true text)

/-- Reads the members of an object after its opening brace, in the order of the text. -/
def readMembers (value : List Char → Step α) (text : List Char) : Step (List (String × α)) :=
  within leaveObject (collect (nextMember value) (text.length + 1) true text)

/-- Reads a value, given the reader of values one level deeper; none when no further container may be
opened. -/
def readValueWith (deeper : Option (List Char → Step Value)) (text : List Char) : Step Value :=
  match skipSpace text with
  | [] => stopPast .eofValue []
  | 'n' :: rest => (readWord "ull".toList rest).map (Value.null, ·)
  | 't' :: rest => (readWord "rue".toList rest).map (Value.bool true, ·)
  | 'f' :: rest => (readWord "alse".toList rest).map (Value.bool false, ·)
  | '"' :: rest => (readString rest).map fun (s, rest) => (.string (String.ofList s), rest)
  | '-' :: rest => (readNumber false rest).map fun (n, rest) => (.number n, rest)
  | '[' :: rest =>
    match deeper with
    | none => stopPast .tooDeep ('[' :: rest)
    | some value => (readElements value rest).map fun (items, rest) => (.array items, rest)
  | '{' :: rest =>
    match deeper with
    | none => stopPast .tooDeep ('{' :: rest)
    | some value =>
      (readMembers value rest).map fun (members, rest) => (.object (sortPairs members), rest)
  | c :: rest =>
    if c.isDigit then (readNumber true (c :: rest)).map fun (n, rest) => (.number n, rest)
    else stopPast .expectedValue (c :: rest)

/-- Reads a value in which `levels` containers may be nested. Of several members of one key the last
counts. -/
def readValue : (levels : Nat) → List Char → Step Value
  | 0 => readValueWith none
  | levels + 1 => readValueWith (some (readValue levels))

/-- Reads a whole text; nothing but white space may follow. -/
def readWhole (reader : List Char → Step α) (text : List Char) : Except Fault α := do
  let (a, rest) ← reader text
  match skipSpace rest with
  | [] => return a
  | rest => stopPast .trailingCharacters rest

/-- Reads a text as one value. -/
def Value.read (text : List Char) : Except Fault Value :=
  readWhole (readValue maxDepth) text

end LogIngest.Json

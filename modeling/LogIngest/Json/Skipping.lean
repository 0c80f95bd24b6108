import LogIngest.Json.Reader

/-!
Passing over a value without reading it. Only the form of the text is checked: numbers may be of any
size, escapes need not name a character, and nesting is not limited.
-/

namespace LogIngest.Json

/-- Passes over digits after the mark of an exponent. -/
def skipExponent (text : List Char) : Except Fault (List Char) :=
  let digits := match text with
    | '+' :: rest | '-' :: rest => rest
    | _ => text
  match digits with
  | [] => stopAt .invalidNumber []
  | c :: rest =>
    if c.isDigit then .ok (rest.dropWhile Char.isDigit) else stopPast .invalidNumber (c :: rest)

/-- Passes over a number after its sign. -/
def skipNumber (text : List Char) : Except Fault (List Char) :=
  let exponent (rest : List Char) : Except Fault (List Char) :=
    if startsWithExponent rest then skipExponent rest.tail else .ok rest
  match text with
  | [] => stopAt .invalidNumber []
  | first :: afterFirst =>
    if !first.isDigit then stopPast .invalidNumber text
    else if first == '0' && startsWithDigit afterFirst then stopPast .invalidNumber afterFirst
    else
      match text.dropWhile Char.isDigit with
      | '.' :: places =>
        if startsWithDigit places then exponent (places.dropWhile Char.isDigit)
        else stopPast .invalidNumber places
      | rest => exponent rest

/-- Passes over one character of a string; nothing is yielded behind the closing quote. -/
def skipCharacter : List Char → Step (Option Unit)
  | [] => stopAt .eofString []
  | '"' :: rest => .ok (none, rest)
  | '\\' :: rest =>
    match rest with
    | [] => stopAt .eofString []
    | 'u' :: digits => (readHex digits).map fun (_, rest) => (some (), rest)
    | c :: after =>
      if (shortEscape? c).isSome then .ok (some (), after) else stopPast .invalidEscape rest
  | c :: rest =>
    if c.toNat < 0x20 then stopAt .controlCharacter (c :: rest) else .ok (some (), rest)

/-- Passes over a string after its opening quote. -/
def skipString (text : List Char) : Except Fault (List Char) :=
  (collect (fun _ => skipCharacter) (text.length + 1) true text).map (·.2)

/-- Passes over the key of a member and its colon. -/
def skipKey (text : List Char) : Except Fault (List Char) := do
  match skipSpace text with
  | [] => stopPast .eofObject []
  | '"' :: rest => readColon (← skipString rest)
  | rest => stopPast .keyNotString rest

/-- The kinds of containers. -/
inductive Container where
  | list
  | object
deriving DecidableEq, Repr

namespace Container

/-- Whether a character closes the container. -/
def closes : Container → Char → Bool
  | list, c => c == ']'
  | object, c => c == '}'

def unfinished : Container → Cause
  | list => .eofList
  | object => .eofObject

def expectedComma : Container → Cause
  | list => .expectedCommaOrBracket
  | object => .expectedCommaOrBrace

/-- Passes over what precedes the next value in the container. -/
def skipEntry : Container → List Char → Except Fault (List Char)
  | list, text => .ok text
  | object, text => skipKey text

end Container

/-- Passes over closing brackets behind a value, innermost container first, up to the comma before the
next value. Yields the containers still open and the text where that value is due. -/
def skipClosing : List Container → List Char → Except Fault (List Container × List Char)
  | [], text => .ok ([], text)
  | inner :: outer, text =>
    match skipSpace text with
    | [] => stopPast inner.unfinished []
    | c :: rest =>
      if c == ',' then (inner.skipEntry rest).map (inner :: outer, ·)
      else if inner.closes c then skipClosing outer rest
      else stopPast inner.expectedComma (c :: rest)

/-- Passes over the start of a value in some open containers: a whole scalar, or the bracket that opens
a further container, closed at once when nothing is in it. -/
def skipStart (opened : List Container) (text : List Char) :
    Except Fault (List Container × List Char) := do
  let enter (container : Container) (rest : List Char) :
      Except Fault (List Container × List Char) :=
    match skipSpace rest with
    | [] => stopPast container.unfinished []
    | c :: rest =>
      if container.closes c then skipClosing opened rest
      else (container.skipEntry (c :: rest)).map (container :: opened, ·)
  match skipSpace text with
  | [] => stopPast .eofValue []
  | 'n' :: rest => skipClosing opened (← readWord "ull".toList rest)
  | 't' :: rest => skipClosing opened (← readWord "rue".toList rest)
  | 'f' :: rest => skipClosing opened (← readWord "alse".toList rest)
  | '"' :: rest => skipClosing opened (← skipString rest)
  | '-' :: rest => skipClosing opened (← skipNumber rest)
  | '[' :: rest => enter .list rest
  | '{' :: rest => enter .object rest
  | c :: rest =>
    if c.isDigit then skipClosing opened (← skipNumber (c :: rest))
    else stopPast .expectedValue (c :: rest)

/-- Passes over values until no container is open any more. The bound is on the number of values. -/
def skipValues : Nat → List Container → List Char → Except Fault (List Char)
  | 0, _, text => .ok text
  | bound + 1, opened, text => do
    let (opened, rest) ← skipStart opened text
    if opened.isEmpty then return rest else skipValues bound opened rest

/-- Passes over one value. -/
def skipValue (text : List Char) : Except Fault (List Char) :=
  skipValues (text.length + 1) [] text

end LogIngest.Json

import LogIngest.Decimal.Layout
import LogIngest.Json.Value
import LogIngest.Text.Pieces
import LogIngest.Text.Quoted

/-!
JSON text of values: on one line without spaces, or laid out over lines.
-/

namespace LogIngest.Json

/-- One character inside a string: quotes, backslashes and control characters are escaped, and
nothing else is. -/
def escaped (c : Char) : List Char :=
  if c == '"' then ['\\', '"']
  else if c == '\\' then ['\\', '\\']
  else if c == '\x08' then ['\\', 'b']
  else if c == '\x0C' then ['\\', 'f']
  else if c == '\n' then ['\\', 'n']
  else if c == '\r' then ['\\', 'r']
  else if c == '\t' then ['\\', 't']
  else if c.toNat < 0x20 then
    ['\\', 'u', '0', '0', Nat.digitChar (c.toNat / 16), Nat.digitChar (c.toNat % 16)]
  else [c]

/-- The text of a string. -/
def stringText (s : List Char) : List Char :=
  '"' :: s.flatMap escaped ++ ['"']

/-- The text of a number. Doubles that are no numbers are written as null. -/
def Number.text : Number → List Char
  | .integer n => intText n
  | .double x => if x.isFinite then FloatLayout.document.text x else "null".toList

def boolText (b : Bool) : List Char :=
  if b then "true".toList else "false".toList

namespace Value

mutual

/-- The text of a value on one line, without spaces. -/
def compact : Value → List Char
  | null => "null".toList
  | bool b => boolText b
  | number n => n.text
  | string s => stringText s.toList
  | array items => '[' :: Text.join [','] (compactItems items) ++ [']']
  | object members => '{' :: Text.join [','] (compactMembers members) ++ ['}']

def compactItems : List Value → List (List Char)
  | [] => []
  | v :: vs => compact v :: compactItems vs

def compactMembers : List (String × Value) → List (List Char)
  | [] => []
  | (k, v) :: rest => (stringText k.toList ++ ':' :: compact v) :: compactMembers rest

end

/-- A new line with two spaces for each level of nesting. -/
def newLine (level : Nat) : List Char :=
  '\n' :: List.replicate (2 * level) ' '

/-- Pieces between brackets, each on a line of its own one level deeper; without pieces the brackets
stand together. -/
def block (opening closing : Char) (level : Nat) : List (List Char) → List Char
  | [] => [opening, closing]
  | pieces =>
    opening :: newLine (level + 1) ++ Text.join (',' :: newLine (level + 1)) pieces ++
      newLine level ++ [closing]

mutual

/-- The text of a value over several lines, at a level of nesting. -/
def indented (level : Nat) : Value → List Char
  | array items => block '[' ']' level (indentedItems (level + 1) items)
  | object members => block '{' '}' level (indentedMembers (level + 1) members)
  | null => "null".toList
  | bool b => boolText b
  | number n => n.text
  | string s => stringText s.toList

def indentedItems (level : Nat) : List Value → List (List Char)
  | [] => []
  | v :: vs => indented level v :: indentedItems level vs

def indentedMembers (level : Nat) : List (String × Value) → List (List Char)
  | [] => []
  | (k, v) :: rest =>
    (stringText k.toList ++ ':' :: ' ' :: indented level v) :: indentedMembers level rest

end

/-- The text of a value on one line. -/
def text (v : Value) : String :=
  String.ofList v.compact

/-- The text of a value over several lines. -/
def prettyText (v : Value) : String :=
  String.ofList (v.indented 0)

end Value
end LogIngest.Json

import LogIngest.Calendar.Item
import LogIngest.Text.Quotes

/-!
Date layouts. A layout says with percent signs which components a text has; a pattern of letters, with
quotes around literal text, is turned into such a layout.
-/

namespace LogIngest.Calendar

/-- Why a pattern is no date format. -/
inductive LayoutFault where
  | unterminatedQuote
  | unknownLetter (c : Char)
  | unknownSpecifier
  | noComponent
deriving DecidableEq, Repr

namespace LayoutFault

def message : LayoutFault → String
  | unterminatedQuote => "unterminated quoted literal"
  | unknownLetter c =>
    let shown := String.singleton c
    s!"unsupported pattern letter '{shown}'"
  | unknownSpecifier => "unsupported format specifier"
  | noComponent => "format has no date or time component"

end LayoutFault

namespace Layout

/-- The specifier that a run of one letter stands for. -/
def ofLetter (letter : Char) (count : Nat) : Except LayoutFault String :=
  match letter with
  | 'y' => .ok (if count == 2 then "%y" else "%Y")
  | 'M' | 'L' => .ok (if count ≤ 2 then "%m" else if count == 3 then "%b" else "%B")
  | 'd' => .ok "%d"
  | 'D' => .ok "%j"
  | 'H' | 'k' => .ok "%H"
  | 'h' | 'K' => .ok "%I"
  | 'm' => .ok "%M"
  | 's' => .ok "%S"
  | 'S' => .ok "%f"
  | 'a' => .ok "%p"
  | 'E' => .ok (if count ≤ 3 then "%a" else "%A")
  | 'u' => .ok "%u"
  | 'Z' | 'X' | 'z' => .ok "%z"
  | other => .error (.unknownLetter other)

/-- Counts equal symbols that follow each other. -/
def runs : List Text.Symbol → List (Text.Symbol × Nat)
  | [] => []
  | s :: rest =>
    match runs rest with
    | (t, count) :: more => if s = t then (t, count + 1) :: more else (s, 1) :: (t, count) :: more
    | [] => [(s, 1)]

/-- A character that stands for itself in a layout. -/
def literalText (c : Char) : List Char :=
  if c == '%' then ['%', '%'] else [c]

/-- The part of a layout that a run of a symbol stands for. -/
def ofRun (symbol : Text.Symbol) (count : Nat) : Except LayoutFault (List Char) :=
  match symbol with
  | .plain c =>
    if c.isAlpha then (ofLetter c count).map String.toList
    else .ok (List.replicate count (literalText c)).flatten
  | .literal c => .ok (List.replicate count (literalText c)).flatten
  | .unterminated => .error .unterminatedQuote

/-- Turns a pattern of letters into a layout, and tells whether it reads milliseconds. -/
def ofPattern (pattern : List Char) : Except LayoutFault (List Char × Bool) := do
  let symbols := Text.symbols pattern
  let parts ← (runs symbols).mapM fun (symbol, count) => ofRun symbol count
  return (parts.flatten, symbols.contains (.plain 'S'))

/-- The characters between a percent sign and the letter of a specifier. -/
def isModifier (c : Char) : Bool :=
  c == '-' || c == '_' || c == '#' || c == ':' || c == '.' || c.isDigit

/-- The letters of the specifiers of a layout. The flag tells whether a percent sign waits for its
letter. -/
def letters : (waiting : Bool) → List Char → List Char
  | _, [] => []
  | false, c :: rest => letters (c == '%') rest
  | true, c :: rest => if isModifier c then letters true rest else c :: letters false rest

end Layout

/-- Which components a layout supplies. -/
structure Supply where
  year : Bool
  month : Bool
  day : Bool
  ordinal : Bool
  hour : Bool
  hourOfHalf : Bool
  half : Bool
  minute : Bool
  second : Bool
  zone : Bool
  stamp : Bool
deriving DecidableEq, Repr

namespace Supply

/-- The components that the letters of a layout name. -/
def ofLayout (layout : List Char) : Supply :=
  let letters := Layout.letters false layout
  let anyOf (names : String) : Bool := letters.any fun c => names.toList.contains c
  { year := anyOf "YCyGgFDxc+"
    month := anyOf "mbBhFDxc+"
    day := anyOf "deFDxc+"
    ordinal := anyOf "j"
    hour := anyOf "HkTXRc+"
    hourOfHalf := anyOf "Ilr"
    half := anyOf "pPr"
    minute := anyOf "MTXRrc+"
    second := anyOf "STXrc+"
    zone := anyOf "zZ+"
    stamp := anyOf "s" }

/-- Whether a date or a time can be told from the components. -/
def any (supply : Supply) : Bool :=
  supply.year || supply.month || supply.day || supply.ordinal || supply.hour ||
    supply.hourOfHalf || supply.stamp

end Supply
end LogIngest.Calendar

import LogIngest.Pattern.Edition
import LogIngest.Pattern.Look
import LogIngest.Text.Blank
import LogIngest.Text.CaseFold

/-!
Flags: how the text of a pattern is read from some place on.
-/

namespace LogIngest.Pattern

structure Flags where
  ignoreCase : Bool := false
  /-- Whether `^` and `$` hold at the ends of lines. -/
  multiLine : Bool := false
  /-- Whether the dot stands for line feeds too. -/
  dotAll : Bool := false
  /-- Whether repetitions are lazy unless marked. -/
  swapGreed : Bool := false
  /-- Whether classes and case go beyond ASCII. -/
  unicode : Bool := true
  /-- Whether a carriage return ends a line too. -/
  returns : Bool := false
  /-- Whether white space and comments in the pattern count for nothing. -/
  verbose : Bool := false
  /-- Whether classes are held to what the other flags allow, and have names that are known. -/
  strict : Bool := true
  edition : Edition := .standard

/-- The text behind white space and comments, read from within a comment or from outside. A comment
goes from a number sign to the end of the line. -/
def skipFrom (comment : Bool) : List Char → List Char
  | [] => []
  | c :: rest =>
    if comment then skipFrom (c != '\n') rest
    else if Text.isBlankChar c then skipFrom false rest
    else if c == '#' then skipFrom true rest
    else c :: rest

namespace Flags

/-- The text behind what counts for nothing. -/
def skip (flags : Flags) (text : List Char) : List Char :=
  if flags.verbose then skipFrom false text else text

/-- The first character behind what counts for nothing, where a comment is not passed over but its
mark is. -/
def peek (flags : Flags) (text : List Char) : Option Char :=
  if flags.verbose then
    match text.dropWhile Text.isBlankChar with
    | '#' :: rest => (rest.dropWhile Text.isBlankChar).head?
    | rest => rest.head?
  else text.head?

/-- A set, with the members of the other case if case does not matter. -/
def close (flags : Flags) (set : CharSet) : CharSet :=
  if !flags.ignoreCase then set
  else if flags.unicode then set.caseClosure
  else set.asciiCaseClosure

/-- The set of a single character. -/
def literal (flags : Flags) (c : Char) : CharSet :=
  if !flags.ignoreCase then .single c
  else if flags.unicode then .anyCase c
  else (CharSet.single c).asciiCaseClosure

/-- The bytes that are no characters by themselves. -/
def wide : CharSet := .interval 0x80 0xFF

/-- Whether a class may stand. Without Unicode a class is one of bytes, which has to keep to ASCII. -/
def allows (flags : Flags) (set : CharSet) : Bool :=
  flags.unicode || !flags.strict || (set.inter wide).edges.isEmpty

/-- The set that a class denotes, given the part of the pattern where it is written. -/
def allow (flags : Flags) (start stop : List Char) (set : CharSet) : Except Fault CharSet :=
  if !flags.allows set then fail .beyondAscii start stop
  else if flags.unicode then .ok set
  else .ok (set.inter (.interval 0 0x7F))

/-- A class, given its members: case is settled before they are excluded. -/
def classOf (flags : Flags) (negated : Bool) (set : CharSet) : CharSet :=
  let set := flags.close set
  if negated then set.compl else set

/-- The set of a class by its name, given the part of the pattern where it is written. -/
def named (flags : Flags) (start stop : List Char) (name : ClassName) (negated : Bool) :
    Except Fault CharSet :=
  if !flags.strict then .ok .empty
  else if !flags.unicode then fail .beyondBytes start stop
  else
    match flags.edition.classes name with
    | .ok set => .ok (flags.classOf negated set)
    | .error cause => fail cause start stop

/-- Sets a flag by its letter. -/
def set? (flags : Flags) (letter : Char) (value : Bool) : Option Flags :=
  match letter with
  | 'i' => some { flags with ignoreCase := value }
  | 'm' => some { flags with multiLine := value }
  | 's' => some { flags with dotAll := value }
  | 'U' => some { flags with swapGreed := value }
  | 'u' => some { flags with unicode := value }
  | 'R' => some { flags with returns := value }
  | 'x' => some { flags with verbose := value }
  | _ => none

/-- Reads the letters of flags up to the colon or parenthesis that ends them, given those read before,
last one first, and whether they are switched off. Yields the flags, whether there were any letters,
and the text from the end on. A hyphen switches the letters behind it off. -/
def read (flags : Flags) (seen : List (Char × Span)) (off : Bool) :
    List Char → Except Fault (Flags × Bool × List Char)
  | [] => failAt .unclosedFlags []
  | c :: rest =>
    let here := Span.first (c :: rest)
    if c == ':' || c == ')' then
      match seen with
      | ('-', span) :: _ => .error (.malformed .danglingHyphen span none)
      | _ => .ok (flags, !seen.isEmpty, c :: rest)
    else
      match flags.set? c (!off), seen.lookup c with
      | _, some span => failDueTo (if c == '-' then .repeatedHyphen else .repeatedFlag) here span
      | some flags, none => read flags ((c, here) :: seen) off rest
      | none, none =>
        if c == '-' then read flags ((c, here) :: seen) true rest
        else failAt .unknownFlag (c :: rest)

end Flags
end LogIngest.Pattern

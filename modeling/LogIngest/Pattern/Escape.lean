import LogIngest.Decimal.Numeral
import LogIngest.Pattern.Flags

/-!
Escape sequences of patterns. Every reader returns what it read and the text after it.
-/

namespace LogIngest.Pattern

/-- What reading yields: a value and the text after it, or a fault. -/
abbrev Step (α : Type) := Except Fault (α × List Char)

/-- The classes that a letter stands for. -/
inductive Shorthand where
  | digit
  | space
  | word
deriving DecidableEq, Repr

namespace Shorthand

/-- The members of a class. -/
def members (unicode : Bool) : Shorthand → CharSet
  | digit => if unicode then CharSet.decimalDigit else ⟨#[0x30, 0x3A]⟩
  | space => if unicode then CharSet.whiteSpace else ⟨#[0x09, 0x0E, 0x20, 0x21]⟩
  | word => if unicode then CharSet.word else asciiWord

/-- The set that a class denotes under some flags. -/
def set (flags : Flags) (negated : Bool) (shorthand : Shorthand) : CharSet :=
  let set := shorthand.members flags.unicode
  if negated then set.compl else set

end Shorthand

inductive Escape where
  /-- A character, which may have been written as a byte in two digits. -/
  | literal (c : Char) (byte : Bool)
  | shorthand (kind : Shorthand) (negated : Bool)
  /-- The characters with some property, or those without it. -/
  | property (name : ClassName) (negated : Bool)
  | look (look : Look)

/-- The character with a code. -/
def charOf? (code : Nat) : Option Char :=
  if h : code.isValidChar then some (Char.ofNatAux code h) else none

/-- Reads a number of hexadecimal digits behind those that give `value`. -/
def readCode (flags : Flags) : Nat → (value : Nat) → List Char → Step Nat
  | 0, value, text => .ok (value, flags.skip text)
  | count + 1, value, text =>
    match flags.skip text with
    | [] => failAt .unclosedEscape []
    | c :: rest =>
      match hexValue? c with
      | some digit => readCode flags count (16 * value + digit) rest
      | none => failAt .codeDigit (c :: rest)

/-- Reads hexadecimal digits up to a closing brace, at most as many as `bound` says. Yields the text
from the brace on, and no value if there is no digit. The text from the opening brace on is `start`. -/
def readBracedCode (flags : Flags) (start : List Char) : (bound : Nat) → (value : Option Nat) →
    List Char → Step (Option Nat)
  | 0, _, _ => fail .unclosedEscape start []
  | bound + 1, value, text =>
    match flags.skip text with
    | [] => fail .unclosedEscape start []
    | '}' :: rest => .ok (value, '}' :: rest)
    | c :: rest =>
      match hexValue? c with
      | some digit => readBracedCode flags start bound (some (16 * value.getD 0 + digit)) rest
      | none => failAt .codeDigit (c :: rest)

/-- The character of a code that stands in some part of the pattern. -/
def charOfCode (byte : Bool) (code : Nat) (start stop : List Char) : Except Fault Escape :=
  match charOf? code with
  | some c => .ok (.literal c byte)
  | none => fail .noCharacter start stop

/-- Reads the code of a character: in braces, or with a fixed number of digits. -/
def readChar (flags : Flags) (digits : Nat) (text : List Char) :
    Except Fault (Escape × List Char) := do
  match flags.skip text with
  | [] => failAt .unclosedEscape []
  | '{' :: start =>
    let (code, stop) ← readBracedCode flags ('{' :: start) (start.length + 1) none start
    let rest := flags.skip stop.tail
    match code with
    | some code => return (← charOfCode false code start stop, rest)
    | none => fail .emptyCode ('{' :: start) rest
  | start =>
    let (code, rest) ← readCode flags digits 0 start
    return (← charOfCode (digits == 2) code start rest, rest)

/-- Reads the name of a property up to a closing brace, at most as many characters as `bound` says. Yields the
text behind the brace. -/
def readPropertyName (flags : Flags) : (bound : Nat) → List Char → Step (List Char)
  | 0, _ => failAt .unclosedEscape []
  | bound + 1, text =>
    match flags.skip text with
    | [] => failAt .unclosedEscape []
    | '}' :: rest => .ok ([], rest)
    | c :: rest => (readPropertyName flags bound rest).map fun (name, rest) => (c :: name, rest)

/-- Reads a class by a property, given the text behind the letter P: the name of the property in braces, or one
letter. -/
def readProperty (flags : Flags) (negated : Bool) (text : List Char) : Step Escape :=
  match flags.skip text with
  | [] => failAt .unclosedEscape []
  | '{' :: rest =>
    (readPropertyName flags (rest.length + 1) rest).map fun (name, rest) =>
      (.property (.ofText name) negated, rest)
  | '\\' :: rest => failAt .classLetter ('\\' :: rest)
  | c :: rest => .ok (.property (.named [c]) negated, flags.skip rest)

/-- The characters of the names of word edges. -/
def isEdgeChar (c : Char) : Bool :=
  c == '-' || c.isAlpha

/-- Reads characters of a name, at most as many as `bound` says. -/
def readEdgeName (flags : Flags) : (bound : Nat) → List Char → List Char × List Char
  | 0, text => ([], text)
  | bound + 1, text =>
    match flags.skip text with
    | [] => ([], [])
    | c :: rest =>
      if isEdgeChar c then
        let (name, rest) := readEdgeName flags bound rest
        (c :: name, rest)
      else ([], c :: rest)

/-- Reads which edge of a word is meant, given the text behind the letter b, and from the backslash
before it on. Braces that hold no name belong to what comes next. -/
def readEdge (flags : Flags) (start : List Char) : List Char → Step WordEdge
  | '{' :: rest =>
    match flags.skip rest with
    | [] => fail .openEdge start []
    | c :: others =>
      if isEdgeChar c then
        let (name, behind) := readEdgeName flags rest.length rest
        match behind with
        | '}' :: behind =>
          match String.ofList name with
          | "start" => .ok (.start, behind)
          | "end" => .ok (.stop, behind)
          | "start-half" => .ok (.startHalf, behind)
          | "end-half" => .ok (.stopHalf, behind)
          | _ => fail .unknownEdge (c :: others) ('}' :: behind)
        | _ => fail .unclosedEdge ('{' :: rest) behind
      else .ok (.boundary, '{' :: rest)
  | text => .ok (.boundary, text)

/-- Characters other than letters and digits that stand for themselves behind a backslash. -/
def isEscapable (c : Char) : Bool :=
  c.toNat < 0x80 && !c.isAlphanum && c != '<' && c != '>'

/-- Reads what stands behind a backslash. The text from the backslash on is `start`. -/
def readEscape (flags : Flags) (start : List Char) : List Char → Step Escape
  | [] => fail .unclosedEscape start []
  | c :: rest =>
    let single (c : Char) : Step Escape := .ok (.literal c false, rest)
    let look (look : Look) : Step Escape := .ok (.look look, rest)
    match c with
    | 'x' => readChar flags 2 rest
    | 'u' => readChar flags 4 rest
    | 'U' => readChar flags 8 rest
    | 'd' => .ok (.shorthand .digit false, rest)
    | 'D' => .ok (.shorthand .digit true, rest)
    | 's' => .ok (.shorthand .space false, rest)
    | 'S' => .ok (.shorthand .space true, rest)
    | 'w' => .ok (.shorthand .word false, rest)
    | 'W' => .ok (.shorthand .word true, rest)
    | 'p' => readProperty flags false rest
    | 'P' => readProperty flags true rest
    | 'a' => single '\x07'
    | 'f' => single '\x0C'
    | 't' => single '\t'
    | 'n' => single '\n'
    | 'r' => single '\r'
    | 'v' => single '\x0B'
    | 'A' => look .textStart
    | 'z' => look .textEnd
    | 'b' => (readEdge flags start rest).map fun (edge, rest) => (.look (.word flags.unicode edge), rest)
    | 'B' => look (.word flags.unicode .inner)
    | '<' => look (.word flags.unicode .start)
    | '>' => look (.word flags.unicode .stop)
    | c =>
      if isEscapable c then single c
      else if c.isDigit then fail .backreference start rest
      else fail .unknownEscape start rest

end LogIngest.Pattern

import LogIngest.Config.Error
import LogIngest.Pattern.Diagnosis
import LogIngest.Pattern.Search
import LogIngest.Text.Blank

/-!
Patterns: regular expressions with groups that capture parts of a text. A pattern of a configuration
is either searched anywhere in a text, or has to match the whole of it.
-/

namespace LogIngest

/-- A compiled pattern. -/
structure Pattern where
  /-- The text it was configured with. -/
  source : String
  program : Array Pattern.Instr
  /-- The number of groups, the whole match among them. -/
  groups : Nat
  /-- The names of groups with their numbers. -/
  names : List (String × Nat)

namespace Pattern

/-- The program of tokens and the numbers of their groups. -/
def assemble (edition : Edition) (tokens : List Token) : Except Fault (Array Instr × List Nat) :=
  match Node.ofTokens? tokens with
  | some node => (node.toProgram edition.sizeLimit).map (·, node.groups)
  | none => .error (.tooLarge edition.sizeLimit)

/-- Compiles the text of a pattern on behalf of the text it was configured with. -/
def compile (edition : Edition) (source : String) (text : List Char) : Except Fault Pattern := do
  let (tokens, names) ← tokenize edition text
  let (program, numbers) ← assemble edition tokens
  let names := names.filter fun name => numbers.contains name.index
  return {
    source
    program
    groups := numbers.foldl max 0 + 1
    names := names.map fun name => (name.name, name.index) }

/-- Compiles the text of a pattern of a configuration. -/
def ofText (edition : Edition) (source : String) (text : List Char) : Except SetupError Pattern :=
  (compile edition source text).mapError fun fault => .invalidPattern source (fault.message text)

/-- A pattern that is searched anywhere in a text. -/
def anywhereIn (edition : Edition) (source : String) : Except SetupError Pattern :=
  ofText edition source source.toList

/-- A pattern in the standard edition that is searched anywhere in a text. -/
def anywhere (source : String) : Except SetupError Pattern :=
  anywhereIn .standard source

/-- The text of a pattern put between the start and the end of a text. -/
def enclosed (source : List Char) : List Char :=
  "^(?:".toList ++ source ++ ")$".toList

/-- A pattern that has to match the whole of a text. -/
def wholeIn (edition : Edition) (source : String) : Except SetupError Pattern :=
  ofText edition source (enclosed source.toList)

/-- A pattern in the standard edition that has to match the whole of a text. -/
def whole (source : String) : Except SetupError Pattern :=
  wholeIn .standard source

/-- What the groups of a pattern have captured in a text. -/
structure Captures where
  text : List Char
  slots : Slots

/-- The text that a group has captured, unless it took no part in the match. -/
def Captures.group? (captures : Captures) (index : Nat) : Option String :=
  match captures.slots.getD (2 * index) none, captures.slots.getD (2 * index + 1) none with
  | some start, some stop => some (String.ofList ((captures.text.drop start).take (stop - start)))
  | _, _ => none

/-- Finds the first match in a text. -/
def find? (pattern : Pattern) (text : String) : Option Captures :=
  (search pattern.program pattern.groups text.toList).map (Captures.mk text.toList)

/-- Whether there is a match in a text. -/
def occursIn (pattern : Pattern) (text : String) : Bool :=
  (search pattern.program pattern.groups text.toList).isSome

/-- Finds the group that a configuration asks for on behalf of a field: by its number, by its name, or
the first one. -/
def group (pattern : Pattern) (field : String) (name : Option String) : Except SetupError Nat :=
  let missing (group : String) : SetupError := .invalidGroup field group (pattern.groups - 1)
  let numbered (index : Nat) : Except SetupError Nat :=
    if index < pattern.groups then .ok index else .error (missing (String.ofList (natText index)))
  match name.map trimmed with
  | none => numbered 1
  | some name =>
    match Bounds.word64.read name.toList with
    | .ok index => numbered index.toNat
    | .error _ =>
      match pattern.names.lookup name with
      | some index => .ok index
      | none => .error (missing name)

end Pattern
end LogIngest

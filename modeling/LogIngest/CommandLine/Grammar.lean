/-!
Grammars of arguments: options with a long and perhaps a short name, and positional arguments. The value
of an option may be attached or stand in the next argument; it is judged only when the next option or
positional argument comes, or at the end.
-/

namespace LogIngest.CommandLine

/-- Why arguments are refused, or what is asked for in place of a command. -/
inductive Refusal where
  | unknownArgument (text : String)
  | unknownCommand (text : String)
  | missingArgument
  | missingCommand
  /-- There are no arguments at all. -/
  | nothingGiven
  | missingValue (option : String)
  /-- A value is not one of those that are admitted. -/
  | wrongValue (value : String)
  /-- A value cannot be read. -/
  | unreadableValue (value : String)
  /-- A value stands with an option that takes none. -/
  | unexpectedValue (option : String)
  | repeatedOption (option : String)
  | help
  | version
deriving DecidableEq, Repr

namespace Refusal

/-- Whether the user gets what was asked for. -/
def isAnswer : Refusal → Bool
  | help | version => true
  | _ => false

def exitCode (refusal : Refusal) : Nat :=
  if refusal.isAnswer then 0 else 2

def message : Refusal → String
  | unknownArgument text => s!"unexpected argument '{text}'"
  | unknownCommand text => s!"unrecognized command '{text}'"
  | missingArgument => "required arguments are missing"
  | missingCommand | nothingGiven => "a command is required: parse, validate or stats"
  | missingValue option => s!"option '{option}' needs a value"
  | wrongValue value => s!"value '{value}' is not admitted"
  | unreadableValue value => s!"value '{value}' cannot be read"
  | unexpectedValue option => s!"option '{option}' takes no value"
  | repeatedOption option => s!"option '{option}' is given more than once"
  | help => "commands: parse, validate, stats"
  | version => "1"

end Refusal

/-- What an option does to the draft of a command. -/
inductive OptionAction (δ : Type) where
  | flag (given : δ → Bool) (set : δ → δ)
  | value (given : δ → Bool) (set : δ → String → Except Refusal δ)
  | answer (refusal : Refusal)

structure OptionRule (δ : Type) where
  long : String
  short : Option Char
  action : OptionAction δ

structure Grammar (δ : Type) where
  options : List (OptionRule δ)
  /-- Takes a positional argument; none if there are none. -/
  positional : Option (δ → String → Except Refusal δ)

/-- An option with its value, if that has come already. -/
structure Awaited (δ : Type) where
  name : String
  given : δ → Bool
  set : δ → String → Except Refusal δ
  value : Option String := none

/-- What has been read but not yet judged. -/
inductive Pending (δ : Type) where
  | nothing
  | option (awaited : Awaited δ)
  | positional (values : List String)

/-- The form of an argument. -/
inductive Shape where
  /-- Two hyphens, after which all arguments are positional. -/
  | separator
  | long (name : String) (value : Option String)
  /-- Letters after one hyphen. -/
  | cluster (letters : List Char)
  | plain
deriving DecidableEq, Repr

namespace Shape

def ofArgument (argument : String) : Shape :=
  match argument.toList with
  | ['-', '-'] => separator
  | '-' :: '-' :: text =>
    let name := String.ofList (text.takeWhile (· != '='))
    match text.dropWhile (· != '=') with
    | [] => long name none
    | _ :: value => long name (some (String.ofList value))
  | '-' :: letter :: letters => cluster (letter :: letters)
  | _ => plain

end Shape

namespace Grammar

variable {δ : Type}

/-- Judges what is pending. -/
def settle (grammar : Grammar δ) (draft : δ) : Pending δ → Except Refusal δ
  | .nothing => .ok draft
  | .option awaited =>
    match awaited.value with
    | none => .error (.missingValue awaited.name)
    | some value =>
      if awaited.given draft then .error (.repeatedOption awaited.name)
      else awaited.set draft value
  | .positional values =>
    match grammar.positional with
    | none => .ok draft
    | some take => values.foldlM take draft

/-- Takes an option without an attached value. -/
def takeBare (grammar : Grammar δ) (draft : δ) (pending : Pending δ) (rule : OptionRule δ) :
    Except Refusal (δ × Pending δ) := do
  let draft ← grammar.settle draft pending
  match rule.action with
  | .flag given set =>
    if given draft then throw (.repeatedOption rule.long)
    return (set draft, .nothing)
  | .value given set => return (draft, .option { name := rule.long, given, set })
  | .answer refusal => throw refusal

/-- Takes an option with an attached value. -/
def takeAttached (grammar : Grammar δ) (draft : δ) (pending : Pending δ) (rule : OptionRule δ)
    (value : String) : Except Refusal (δ × Pending δ) := do
  match rule.action with
  | .flag _ _ | .answer _ => throw (.unexpectedValue rule.long)
  | .value given set =>
    let draft ← grammar.settle draft pending
    let awaited : Awaited δ := { name := rule.long, given, set, value := some value }
    return (← grammar.settle draft (.option awaited), .nothing)

def takeLong (grammar : Grammar δ) (draft : δ) (pending : Pending δ) (name : String)
    (value : Option String) : Except Refusal (δ × Pending δ) :=
  match grammar.options.find? (·.long == name), value with
  | none, _ => .error (.unknownArgument ("--" ++ name))
  | some rule, none => grammar.takeBare draft pending rule
  | some rule, some value => grammar.takeAttached draft pending rule value

/-- The value that follows the letter of an option in a cluster; an equals sign before it does not
belong to it. -/
def attachedValue : List Char → String
  | '=' :: value => String.ofList value
  | value => String.ofList value

def takeCluster (grammar : Grammar δ) (draft : δ) (pending : Pending δ) :
    List Char → Except Refusal (δ × Pending δ)
  | [] => .ok (draft, pending)
  | letter :: letters =>
    match grammar.options.find? (·.short == some letter) with
    | none => .error (.unknownArgument (String.ofList ['-', letter]))
    | some rule =>
      match rule.action, letters with
      | .value _ _, _ :: _ => grammar.takeAttached draft pending rule (attachedValue letters)
      | _, _ => do
        let (draft, pending) ← grammar.takeBare draft pending rule
        takeCluster grammar draft pending letters

def takePositional (grammar : Grammar δ) (draft : δ) (pending : Pending δ) (value : String) :
    Except Refusal (δ × Pending δ) :=
  match grammar.positional, pending with
  | none, _ => .error (.unknownArgument value)
  | some _, .positional values => .ok (draft, .positional (values ++ [value]))
  | some _, pending => (grammar.settle draft pending).map (·, .positional [value])

/-- Reads arguments into a draft. -/
def readFrom (grammar : Grammar δ) (draft : δ) (pending : Pending δ) :
    List String → Except Refusal δ
  | [] => grammar.settle draft pending
  | argument :: rest =>
    match Shape.ofArgument argument, pending with
    | .separator, _ => do
      let (draft, pending) ← rest.foldlM (fun (draft, pending) value =>
        grammar.takePositional draft pending value) (draft, pending)
      grammar.settle draft pending
    | .long name value, _ => do
      let (draft, pending) ← grammar.takeLong draft pending name value
      readFrom grammar draft pending rest
    | .cluster letters, _ => do
      let (draft, pending) ← grammar.takeCluster draft pending letters
      readFrom grammar draft pending rest
    | .plain, .option { name, given, set, value := none } =>
      readFrom grammar draft (.option { name, given, set, value := some argument }) rest
    | .plain, pending => do
      let (draft, pending) ← grammar.takePositional draft pending argument
      readFrom grammar draft pending rest

/-- Reads all arguments of a command. -/
def read (grammar : Grammar δ) (start : δ) (arguments : List String) : Except Refusal δ :=
  grammar.readFrom start .nothing arguments

end Grammar
end LogIngest.CommandLine

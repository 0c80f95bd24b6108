import LogIngest.Calendar.DateTime
import LogIngest.Config.Document
import LogIngest.Duration
import LogIngest.Files.Expansion
import LogIngest.Files.Lines

/-!
What a command finds around it, what may keep it from succeeding, and what it prints.
-/

namespace LogIngest.CommandLine

open Files (ReadFault Tree WildcardFault)
open Calendar (Instant)

structure Environment where
  /-- The tree of files in which a pattern is looked up. -/
  tree : String → Tree
  /-- The contents of a file. -/
  read : String → Except ReadFault ByteArray
  now : Instant
  processors : Nat := 1
  /-- How long the entry at each position takes to parse. -/
  elapsed : Nat → Duration := fun _ => 0

/-- Why a command fails. -/
inductive Failure where
  | setup (error : SetupError)
  | pattern (fault : WildcardFault)
  | file (fault : ReadFault)
  | brokenParsers (broken all : Nat)
  /-- The program ends while something is set up. -/
  | stopped (fault : Text.CutFault)

namespace Failure

/-- The failure of a command when something cannot be set up. -/
def ofSetup (error : SetupError) : Failure :=
  error.stop?.elim (setup error) stopped

def message : Failure → String
  | setup error => error.message
  | pattern fault => fault.message
  | file fault => fault.message
  | brokenParsers broken all => s!"{broken} of {all} parsers failed to build"
  | stopped fault => fault.message

/-- The line in which a failure is reported. -/
def report (failure : Failure) : String :=
  match failure with
  | stopped fault => fault.message
  | failure => "Error: " ++ failure.message

def exitCode : Failure → Nat
  | stopped _ => 101
  | _ => 1

end Failure

/-- What a command prints, line by line, and the failure that ends it if one does. -/
structure Transcript where
  output : List String := []
  errors : List String := []
  failure : Option Failure := none

namespace Transcript

/-- Lines as one text; each of them is ended. -/
def text (lines : List String) : String :=
  String.join (lines.map (· ++ "\n"))

/-- The transcript of a command that fails before it prints anything. -/
def failed (failure : Failure) : Transcript where
  failure := some failure

/-- The transcript of a command that finds no files. -/
def noFiles : Transcript where
  errors := ["No files matched the given patterns"]

def exitCode (transcript : Transcript) : Nat :=
  transcript.failure.elim 0 Failure.exitCode

end Transcript

namespace Environment

/-- Reads the configuration of a repository. -/
def config (environment : Environment) (path : String) : Except Failure RepositoryConfig :=
  match environment.read path with
  | .error fault => .error (.setup (.unreadable path fault.message))
  | .ok bytes =>
    match String.fromUTF8? bytes with
    | none => .error (.setup (.unreadable path ReadFault.notUtf8.message))
    | some text => (RepositoryConfig.ofText text).mapError .ofSetup

/-- The files that the arguments of a command stand for. -/
def files (environment : Environment) (arguments : List String) :
    Except Failure (List String) :=
  (Files.Wildcard.expandAll environment.tree arguments).mapError .pattern

end Environment
end LogIngest.CommandLine

import LogIngest.Decimal.Numeral
import LogIngest.Text.Blank
import LogIngest.Text.Lowercase

/-!
How grave an entry is. Every text has a severity: what is not recognised is information.
-/

namespace LogIngest

inductive Severity where
  | emergency
  | action
  | critical
  | error
  | warning
  | notice
  | information
  | debug
deriving DecidableEq, Repr, Inhabited

namespace Severity

/-- The severities from the gravest on. -/
def all : List Severity :=
  [emergency, action, critical, error, warning, notice, information, debug]

/-- The numeric code of a severity, its place in that order. -/
def code : Severity → Nat
  | emergency => 0
  | action => 1
  | critical => 2
  | error => 3
  | warning => 4
  | notice => 5
  | information => 6
  | debug => 7

def name : Severity → String
  | emergency => "Emergency"
  | action => "Action"
  | critical => "Critical"
  | error => "Error"
  | warning => "Warning"
  | notice => "Notice"
  | information => "Information"
  | debug => "Debug"

def ofCode? (code : Nat) : Option Severity :=
  all[code]?

/-- The severity of a name in any case. -/
def ofName? (name : List Char) : Option Severity :=
  all.find? fun severity => Text.sameIgnoringAsciiCase severity.name.toList name

/-- The severity that a text without white space around it denotes: by its code, a number of at most
eight bits, or by its name. -/
def ofToken (token : List Char) : Severity :=
  match Bounds.byte.read token with
  | .ok code => (ofCode? code.toNat).getD information
  | .error _ => (ofName? token).getD information

/-- The severity that a text denotes, if there is one. -/
def ofText (text : Option String) : Severity :=
  match text.map fun s => Text.trim s.toList with
  | none | some [] => information
  | some token => ofToken token

@[simp] theorem ofCode?_code (s : Severity) : ofCode? s.code = some s := by
  cases s <;> rfl

end Severity
end LogIngest

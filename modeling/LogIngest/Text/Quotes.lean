/-!
Patterns in which apostrophes keep characters from having a special meaning.
-/

namespace LogIngest.Text

/-- A character of a pattern, in or out of quotes, or the end of a pattern within quotes. -/
inductive Symbol where
  | plain (c : Char)
  | literal (c : Char)
  | unterminated
deriving DecidableEq, Repr

/-- Where a reader of quotes stands: outside them, behind an opening quote, within them, or behind a
quote that closes them unless another one follows. -/
inductive Quoting where
  | outside
  | opened
  | inside
  | closing
deriving DecidableEq, Repr

/-- Resolves the quotes of a pattern. A doubled quote stands for itself, in or out of quotes. -/
def symbolsFrom : Quoting → List Char → List Symbol
  | .outside, [] | .closing, [] => []
  | .opened, [] | .inside, [] => [.unterminated]
  | .outside, c :: rest =>
    if c == '\'' then symbolsFrom .opened rest else .plain c :: symbolsFrom .outside rest
  | .opened, c :: rest =>
    .literal c :: symbolsFrom (if c == '\'' then .outside else .inside) rest
  | .inside, c :: rest =>
    if c == '\'' then symbolsFrom .closing rest else .literal c :: symbolsFrom .inside rest
  | .closing, c :: rest =>
    if c == '\'' then .literal c :: symbolsFrom .inside rest
    else .plain c :: symbolsFrom .outside rest

def symbols (pattern : List Char) : List Symbol :=
  symbolsFrom .outside pattern

end LogIngest.Text

import LogIngest.Pattern.Bracket

/-!
The tokens of patterns. Flags are resolved here: they hold from where they are set to the end of the
group around them, so a token means the same whatever stands before it.
-/

namespace LogIngest.Pattern

inductive Token where
  /-- A character of a set, which may have been written in brackets that nest in some levels. -/
  | chars (set : CharSet) (depth : Nat)
  | look (look : Look)
  /-- A repetition of what stands before it. Without `most` there is no upper bound. -/
  | repetition (least : Nat) (most : Option Nat) (greedy : Bool)
  | alternative
  /-- The start of a group, with its number if it captures. -/
  | opening (capture : Option Nat)
  | closing
  /-- Flags that were set; there is nothing to match or to repeat. -/
  | flags
deriving DecidableEq, Repr

/-- The name of a capture group. -/
structure GroupName where
  name : String
  index : Nat
  /-- Where the name is written. -/
  span : Span
deriving DecidableEq, Repr

/-- A group that is open: the flags to return to behind it, and where it was opened. -/
structure OpenGroup where
  flags : Flags
  opening : Span

/-- What has been seen of a pattern up to some place. -/
structure Progress where
  flags : Flags
  /-- The groups that are open, innermost first. -/
  outer : List OpenGroup := []
  /-- The number of capture groups so far. -/
  captures : Nat := 0
  /-- The names of capture groups, last one first. -/
  names : List GroupName := []
  /-- Whether the last token can be repeated. -/
  repeatable : Bool := false

/-- A token, what has been seen with it, and the text after it. -/
abbrev Advance := Except Fault (Token × Progress × List Char)

namespace Progress

/-- Enters a group with its own flags. -/
def enter (progress : Progress) (opening : Span) (flags : Flags) : Progress :=
  { progress with
    flags := flags
    outer := ⟨progress.flags, opening⟩ :: progress.outer
    repeatable := false }

/-- Enters a capture group. -/
def capture (progress : Progress) (opening : Span) (rest : List Char) : Advance :=
  let index := progress.captures + 1
  let progress := { progress with captures := index }
  .ok (.opening (some index), progress.enter opening progress.flags, rest)

/-- Leaves the innermost group at a parenthesis. -/
def leave (progress : Progress) (text : List Char) : Advance :=
  match progress.outer with
  | [] => failAt .unopenedGroup text
  | group :: outer =>
    .ok (.closing, { progress with flags := group.flags, outer := outer, repeatable := true },
      text.tail)

/-- Goes on behind a token that matches something. -/
def atom (progress : Progress) (token : Token) (rest : List Char) : Advance :=
  .ok (token, { progress with repeatable := true }, rest)

end Progress

/-- Characters that names of groups start with. -/
def startsName (c : Char) : Bool :=
  c == '_' || CharSet.alphabetic.contains c

/-- Characters that names of groups consist of. -/
def continuesName (c : Char) : Bool :=
  c == '_' || c == '.' || c == '[' || c == ']' || CharSet.alphanumeric.contains c

/-- Reads the name of a group up to an angle bracket. Yields the text from there on. -/
def readName (first : Bool) : List Char → Except Fault (List Char × List Char)
  | [] => failAt .unclosedName []
  | c :: rest =>
    if c == '>' then .ok ([], c :: rest)
    else if if first then startsName c else continuesName c then
      (readName false rest).map fun (name, rest) => (c :: name, rest)
    else failAt .nameCharacter (c :: rest)

/-- Reads the start of a named group, given the text from its name on. -/
def readNamedOpening (progress : Progress) (opening : Span) (text : List Char) : Advance := do
  let (name, stop) ← readName true text
  let name := String.ofList name
  let span := Span.between text stop
  if name == "" then fail .emptyName text text
  else
    match progress.names.find? (·.name == name) with
    | some other => failDueTo .repeatedName span other.span
    | none =>
      let names := ⟨name, progress.captures + 1, span⟩ :: progress.names
      { progress with names := names }.capture opening stop.tail

/-- Reads what stands behind an opening parenthesis. The text from the parenthesis on is `start`. -/
def readOpening (progress : Progress) (start text : List Char) : Advance :=
  let opening := Span.first start
  match progress.flags.skip text with
  | '?' :: '=' :: rest | '?' :: '!' :: rest => fail .lookAround start rest
  | '?' :: '<' :: '=' :: rest | '?' :: '<' :: '!' :: rest => fail .lookAround start rest
  | '?' :: 'P' :: '<' :: rest => readNamedOpening progress opening rest
  | '?' :: '<' :: rest => readNamedOpening progress opening rest
  | ['?'] => .error (.malformed .unclosedGroup opening none)
  | '?' :: rest => do
    match ← progress.flags.read [] false rest with
    | (flags, _, ':' :: rest) => return (.opening none, progress.enter opening flags, rest)
    | (flags, true, _ :: rest) =>
      return (.flags, { progress with flags := flags, repeatable := false }, rest)
    | _ => failAt .nothingToRepeat ('?' :: rest)
  | rest => progress.capture opening rest

/-- Reads the mark of a lazy repetition. -/
def readLazy (flags : Flags) : List Char → Bool × List Char
  | '?' :: rest => (flags.swapGreed, rest)
  | rest => (!flags.swapGreed, rest)

/-- A repetition, given the text behind its bounds. -/
def repetition (progress : Progress) (least : Nat) (most : Option Nat) (text : List Char) : Advance :=
  let (greedy, rest) := readLazy progress.flags text
  progress.atom (.repetition least most greedy) rest

/-- Reads digits behind those read before, last one first, at most as many as `bound` says. -/
def readDigits (flags : Flags) : (bound : Nat) → (digits : List Char) → List Char →
    List Char × List Char
  | 0, digits, text => (digits.reverse, text)
  | bound + 1, digits, text =>
    match text with
    | [] => (digits.reverse, [])
    | c :: rest =>
      if c.isDigit then readDigits flags bound (c :: digits) (flags.skip rest)
      else (digits.reverse, c :: rest)

/-- Reads a count with white space around it: a fault if there is none, and the text after it. -/
def readCount (flags : Flags) (text : List Char) : Except Fault Nat × List Char :=
  let start := text.dropWhile Text.isBlankChar
  let (digits, stop) := readDigits flags text.length [] start
  let count := digitsValue digits
  let count :=
    if digits.isEmpty then fail .emptyCount start stop
    else if Nat.pow 2 32 ≤ count then fail .hugeCount start stop
    else .ok count
  (count, stop.dropWhile Text.isBlankChar)

/-- Reads the bounds of a counted repetition up to the closing brace, given the text from the opening
brace on. Yields the text from there on. -/
def readBounds (flags : Flags) (start : List Char) :
    Except Fault ((Nat × Option Nat) × List Char) := do
  let (least, rest) := readCount flags (flags.skip start.tail)
  match rest with
  | [] => fail .unclosedCount start []
  | ',' :: rest =>
    match flags.skip rest with
    | [] => fail .unclosedCount start []
    | '}' :: rest => return ((← least, none), '}' :: rest)
    | rest =>
      let least ← least
      let (most, rest) := readCount flags rest
      return ((least, some (← most)), rest)
  | rest =>
    let least ← least
    return ((least, some least), rest)

/-- Reads a counted repetition, given the text from its opening brace on. -/
def readCounted (progress : Progress) (start : List Char) : Advance := do
  let ((least, most), rest) ← readBounds progress.flags start
  match rest with
  | '}' :: rest =>
    let (token, progress, rest) ← repetition progress least most (progress.flags.skip rest)
    if most.any (· < least) then fail .decreasingCounts start rest
    else return (token, progress, rest)
  | rest => fail .unclosedCount start rest

/-- What a dot stands for. -/
def dot (flags : Flags) : CharSet :=
  if flags.dotAll then CharSet.empty.compl
  else if flags.returns then (CharSet.ofPoints [0x0A, 0x0D]).compl
  else (CharSet.single '\n').compl

/-- The condition of a caret. -/
def lineStart (flags : Flags) : Look :=
  if !flags.multiLine then .textStart
  else if flags.returns then .returnLineStart
  else .lineStart

/-- The condition of a dollar sign. -/
def lineEnd (flags : Flags) : Look :=
  if !flags.multiLine then .textEnd
  else if flags.returns then .returnLineEnd
  else .lineEnd

/-- The token of an escape sequence that is written in some part of the pattern. -/
def Escape.token (flags : Flags) (start stop : List Char) : Escape → Except Fault Token
  | literal c byte =>
    if byte && !flags.unicode && flags.strict && 0x80 ≤ c.toNat then fail .beyondAscii start stop
    else .ok (.chars (flags.literal c) 0)
  | shorthand kind negated => (flags.allow start stop (kind.set flags negated)).map fun set => .chars set 0
  | property name negated => (flags.named start stop name negated).map fun set => .chars set 0
  | look l => .ok (.look l)

/-- Reads one token of a text that is not empty and starts with what counts. -/
def readToken (progress : Progress) (c : Char) (rest : List Char) : Advance :=
  let flags := progress.flags
  let text := c :: rest
  let repeated (least : Nat) (most : Option Nat) : Advance :=
    if progress.repeatable then repetition progress least most rest
    else failAt .nothingToRepeat text
  match c with
  | '(' => readOpening progress text rest
  | ')' => progress.leave text
  | '|' => .ok (.alternative, { progress with repeatable := false }, rest)
  | '?' => repeated 0 (some 1)
  | '*' => repeated 0 none
  | '+' => repeated 1 none
  | '{' => if progress.repeatable then readCounted progress text else failAt .nothingToRepeat text
  | '[' => do
    let (inner, rest) ← readClass flags text.length text
    progress.atom (.chars inner.set inner.depth) rest
  | '\\' => do
    let (escape, rest) ← readEscape flags text rest
    progress.atom (← escape.token flags text rest) rest
  | '.' => do
    progress.atom (.chars (← flags.allow text rest (dot flags)) 0) rest
  | '^' => progress.atom (.look (lineStart flags)) rest
  | '$' => progress.atom (.look (lineEnd flags)) rest
  | c => progress.atom (.chars (flags.literal c) 0) rest

/-- Reads tokens up to the end of the text, at most as many as `bound` says. -/
def readTokens : (bound : Nat) → Progress → List Char → Except Fault (List Token × Progress)
  | 0, progress, _ => .error (.tooLarge progress.flags.edition.sizeLimit)
  | bound + 1, progress, text =>
    match progress.flags.skip text with
    | [] =>
      match progress.outer with
      | [] => .ok ([], progress)
      | group :: _ => .error (.malformed .unclosedGroup group.opening none)
    | c :: rest => do
      let (token, progress, rest) ← readToken progress c rest
      let (tokens, progress) ← readTokens bound progress rest
      return (token :: tokens, progress)

/-- The parts of a group that have been read, and in how many levels they nest. -/
structure Parts where
  /-- The number of alternatives before the current one. -/
  branches : Nat := 0
  /-- The levels of those alternatives. -/
  deepest : Nat := 0
  /-- The number of parts of the current alternative. -/
  count : Nat := 0
  /-- The levels of those parts but the last. -/
  depth : Nat := 0
  /-- The levels of the last part. -/
  last : Nat := 0

namespace Parts

/-- Adds a part to the current alternative. -/
def add (parts : Parts) (depth : Nat) : Parts :=
  { parts with count := parts.count + 1, depth := max parts.depth parts.last, last := depth }

/-- Repeats the last part. -/
def repeatLast (parts : Parts) : Parts :=
  { parts with last := parts.last + 1 }

/-- The levels of the current alternative: several parts are a level of their own. -/
def branch (parts : Parts) : Nat :=
  let depth := max parts.depth parts.last
  if parts.count ≤ 1 then depth else depth + 1

/-- The levels of the group: several alternatives are a level of their own. -/
def levels (parts : Parts) : Nat :=
  let depth := max parts.deepest parts.branch
  if parts.branches == 0 then depth else depth + 1

/-- Starts another alternative. -/
def nextBranch (parts : Parts) : Parts where
  branches := parts.branches + 1
  deepest := max parts.deepest parts.branch

end Parts

/-- The parts of the groups around a place of a pattern, those of the innermost one first. -/
structure Nesting where
  parts : Parts := {}
  outer : List Parts := []

/-- Goes on to the place behind a token. -/
def Nesting.add (nesting : Nesting) : Token → Nesting
  | .chars _ depth => { nesting with parts := nesting.parts.add depth }
  | .look _ | .flags => { nesting with parts := nesting.parts.add 0 }
  | .repetition _ _ _ => { nesting with parts := nesting.parts.repeatLast }
  | .alternative => { nesting with parts := nesting.parts.nextBranch }
  | .opening _ => { parts := {}, outer := nesting.parts :: nesting.outer }
  | .closing =>
    match nesting.outer with
    | around :: outer => { parts := around.add (nesting.parts.levels + 1), outer }
    | [] => nesting

/-- In how many levels the parts of a pattern nest. -/
def levels (tokens : List Token) : Nat :=
  (tokens.foldl Nesting.add {}).parts.levels

/-- The tokens of a pattern, and the names of its groups. A class that reaches too far or has no name that is
known is a fault only of a pattern that has no other. -/
def tokenize (edition : Edition) (text : List Char) : Except Fault (List Token × List GroupName) :=
  let read (strict : Bool) := readTokens (text.length + 1) { flags := { strict, edition } } text
  let isTooDeep (tokens : List Token) := edition.nestLimit < levels tokens
  match read true with
  | .ok (tokens, progress) =>
    if isTooDeep tokens then .error (.tooDeep edition.nestLimit) else .ok (tokens, progress.names)
  | .error fault =>
    match read false with
    | .ok (tokens, _) => .error (if isTooDeep tokens then .tooDeep edition.nestLimit else fault)
    | .error other => .error other

end LogIngest.Pattern

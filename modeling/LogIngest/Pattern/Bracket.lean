import LogIngest.Pattern.Escape

/-!
Character classes in brackets: members, ranges, nested and named classes, and the operations on them.
-/

namespace LogIngest.Pattern

/-- The classes of ASCII that have names. -/
def namedClasses : List (String × CharSet) := [
  ("alnum", ⟨#[0x30, 0x3A, 0x41, 0x5B, 0x61, 0x7B]⟩),
  ("alpha", ⟨#[0x41, 0x5B, 0x61, 0x7B]⟩),
  ("ascii", ⟨#[0x00, 0x80]⟩),
  ("blank", ⟨#[0x09, 0x0A, 0x20, 0x21]⟩),
  ("cntrl", ⟨#[0x00, 0x20, 0x7F, 0x80]⟩),
  ("digit", ⟨#[0x30, 0x3A]⟩),
  ("graph", ⟨#[0x21, 0x7F]⟩),
  ("lower", ⟨#[0x61, 0x7B]⟩),
  ("print", ⟨#[0x20, 0x7F]⟩),
  ("punct", ⟨#[0x21, 0x30, 0x3A, 0x41, 0x5B, 0x61, 0x7B, 0x7F]⟩),
  ("space", ⟨#[0x09, 0x0E, 0x20, 0x21]⟩),
  ("upper", ⟨#[0x41, 0x5B]⟩),
  ("word", asciiWord),
  ("xdigit", ⟨#[0x30, 0x3A, 0x41, 0x47, 0x61, 0x67]⟩)]

/-- Reads a named class, given the text behind its opening bracket: the class, whether it is negated,
and the text after it. None if there is no named class. -/
def readNamed? : List Char → Option (CharSet × Bool × List Char)
  | ':' :: rest =>
    let (negated, rest) := match rest with
      | '^' :: rest => (true, rest)
      | rest => (false, rest)
    match rest.dropWhile (· != ':') with
    | ':' :: ']' :: after =>
      (namedClasses.lookup (String.ofList (rest.takeWhile (· != ':')))).map (·, negated, after)
    | _ => none
  | _ => none

/-- Reads a member of a class, or what may not be one. -/
def readMember (flags : Flags) (opening : Span) : List Char → Step Escape
  | [] => .error (.malformed .unclosedClass opening none)
  | '\\' :: rest => readEscape flags ('\\' :: rest) rest
  | c :: rest => .ok (.literal c false, rest)

/-- The character of the end of a range, which is written in some part of the pattern. -/
def Escape.char (start stop : List Char) : Escape → Except Fault Char
  | literal c _ => .ok c
  | _ => fail .rangeEnd start stop

/-- Lets the character of a class pass unless it is none of ASCII and has to be. -/
def Flags.allowChar (flags : Flags) (start stop : List Char) (c : Char) (byte : Bool) :
    Except Fault Char :=
  if flags.unicode || !flags.strict || c.toNat < 0x80 then .ok c
  else fail (if byte then .beyondAscii else .beyondBytes) start stop

/-- The set of a member that stands alone in some part of the pattern. -/
def Escape.member (flags : Flags) (start stop : List Char) : Escape → Except Fault CharSet
  | literal c byte => (flags.allowChar start stop c byte).map .single
  | shorthand kind negated => flags.allow start stop (kind.set flags negated)
  | property name negated => flags.named start stop name negated
  | look _ => fail .classEscape start stop

/-- Whether an escape is a character written as a byte. -/
def Escape.isByte : Escape → Bool
  | literal _ byte => byte
  | _ => false

/-- The range between two members. -/
def rangeOf (flags : Flags) (start afterFirst beforeLast stop : List Char) (first last : Escape) :
    Except Fault CharSet := do
  let low ← first.char start afterFirst
  let high ← last.char beforeLast stop
  if low ≤ high then
    let low ← flags.allowChar start afterFirst low first.isByte
    let high ← flags.allowChar beforeLast stop high last.isByte
    return .interval low.toNat high.toNat
  else fail .decreasingRange start stop

/-- Reads a member or a range of members. A hyphen makes a range unless the class or an operand ends
behind it. The start of the class is `opening`. -/
def readRange (flags : Flags) (opening : Span) (text : List Char) :
    Except Fault (CharSet × List Char) := do
  let unclosed : Fault := .malformed .unclosedClass opening none
  let (first, rest) ← readMember flags opening text
  match flags.skip rest with
  | [] => throw unclosed
  | c :: behind =>
    let next := flags.peek behind
    if c != '-' || next == some ']' || next == some '-' then
      return (← first.member flags text rest, c :: behind)
    else
      match flags.skip behind with
      | [] => throw unclosed
      | behind =>
        let (last, stop) ← readMember flags opening behind
        return (← rangeOf flags text rest behind stop first last, stop)

/-- A set that brackets denote, and in how many levels they nest. -/
structure Bracketed where
  set : CharSet
  depth : Nat

/-- The members of a class or of an operand that have been read. -/
structure Members where
  set : CharSet := .empty
  count : Nat := 0
  /-- The number of levels of the deepest member. -/
  depth : Nat := 0

namespace Members

def add (members : Members) (set : CharSet) (depth : Nat) : Members where
  set := members.set.union set
  count := members.count + 1
  depth := max members.depth depth

/-- Hyphens at the start of a class. -/
def hyphens (count : Nat) : Members where
  set := if count == 0 then .empty else .single '-'
  count := count

/-- What the members denote together. Several of them are a level of their own. -/
def together (members : Members) : Bracketed where
  set := members.set
  depth := if members.count ≤ 1 then members.depth else members.depth + 1

end Members

/-- An operation that waits for its second operand. -/
structure Waiting where
  op : CharSet → CharSet → CharSet
  first : Bracketed

/-- Carries out an operation that waits, if there is one. Case is settled in its operands. -/
def Waiting.apply (flags : Flags) (waiting : Option Waiting) (members : Members) : Bracketed :=
  let last := members.together
  match waiting with
  | none => last
  | some ⟨op, first⟩ =>
    { set := op (flags.close first.set) (flags.close last.set), depth := max first.depth last.depth + 1 }

/-- Reads the members of a class up to its closing bracket, given those read before and the start of
the class. Nested classes are read by `nested`, and there are at most as many members as `bound`
says. -/
def readMembers (flags : Flags) (opening : Span) (nested : List Char → Step Bracketed) :
    (bound : Nat) → Option Waiting → Members → List Char → Except Fault (Bracketed × List Char)
  | 0, _, _, _ => .error (.malformed .unclosedClass opening none)
  | bound + 1, waiting, members, text =>
    let operator (op : CharSet → CharSet → CharSet) (rest : List Char) :=
      readMembers flags opening nested bound (some ⟨op, Waiting.apply flags waiting members⟩) {} rest
    match flags.skip text with
    | [] => .error (.malformed .unclosedClass opening none)
    | ']' :: rest => .ok (Waiting.apply flags waiting members, rest)
    | '[' :: rest =>
      match readNamed? rest with
      | some (named, negated, behind) => do
        let named ← flags.allow ('[' :: rest) behind (flags.classOf negated named)
        readMembers flags opening nested bound waiting (members.add named 0) behind
      | none => do
        let (inner, rest) ← nested ('[' :: rest)
        readMembers flags opening nested bound waiting (members.add inner.set inner.depth) rest
    | '&' :: '&' :: rest => operator .inter rest
    | '-' :: '-' :: rest => operator .diff rest
    | '~' :: '~' :: rest => operator .symmDiff rest
    | text => do
      let (range, rest) ← readRange flags opening text
      readMembers flags opening nested bound waiting (members.add range 0) rest

/-- What stands at the start of a class: whether its members are excluded, hyphens, and a bracket, both
of which stand for themselves there. -/
structure Header where
  negated : Bool
  start : Members

/-- Reads the hyphens at the start of a class, behind as many as `found` says. -/
def readHyphens (flags : Flags) : (bound : Nat) → (found : Nat) → List Char → Nat × List Char
  | 0, found, text => (found, text)
  | bound + 1, found, text =>
    match flags.skip text with
    | '-' :: rest => readHyphens flags bound (found + 1) rest
    | rest => (found, rest)

/-- Reads the start of a class, given the text from its bracket on and behind it. A class that ends
within its start is marked up to there, but not the hyphens of one that ends behind them. -/
def readHeader (flags : Flags) (opening text : List Char) :
    Except Fault (Header × List Char) := do
  let (negated, rest) := match flags.skip text with
    | '^' :: rest => (true, flags.skip rest)
    | rest => (false, rest)
  if rest.isEmpty then fail .unclosedClass opening []
  else
    let (hyphens, rest) := readHyphens flags (rest.length + 1) 0 rest
    match rest with
    | [] => fail .unclosedClass opening opening
    | ']' :: behind =>
      if 0 < hyphens then return (⟨negated, .hyphens hyphens⟩, rest)
      else
        let behind := flags.skip behind
        if behind.isEmpty then fail .unclosedClass opening []
        else return (⟨negated, Members.add {} (.single ']') 0⟩, behind)
    | rest => return (⟨negated, .hyphens hyphens⟩, rest)

/-- Reads a class, given the text from its opening bracket on. -/
def readClassWith (flags : Flags) (nested : List Char → Step Bracketed) (text : List Char) :
    Except Fault (Bracketed × List Char) := do
  let (header, rest) ← readHeader flags text text.tail
  let opening := Span.between text rest
  let (inner, rest) ← readMembers flags opening nested (rest.length + 1) none header.start rest
  let set ← flags.allow text rest (flags.classOf header.negated inner.set)
  return ({ set, depth := inner.depth + 1 }, rest)

/-- Reads a class that nests at most `levels` others. -/
def readClass (flags : Flags) : (levels : Nat) → List Char → Step Bracketed
  | 0, text => failAt .unclosedClass text
  | levels + 1, text => readClassWith flags (readClass flags levels) text

end LogIngest.Pattern

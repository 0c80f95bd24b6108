import LogIngest.Severity
import LogIngest.Text.Alphabet

/-!
Search keywords of an entry: terms of its message, then one keyword each for source, host and
severity. Main statement: the standard tokenizer keeps to a budget that is positive.
-/

namespace LogIngest

/-- Cuts a text into terms, at most as many as the budget allows. -/
abbrev Tokenizer := String → Int32 → List String

namespace Keywords

/-- The number of terms that a budget allows; none means any number. -/
def limit? (budget : Int32) : Option Nat :=
  if 0 < budget.toInt then some budget.toInt.toNat else none

def isTermChar (c : Char) : Bool :=
  CharSet.alphanumeric.contains c

/-- Characters that hold two halves of a term together. -/
def isJoiner (c : Char) : Bool :=
  c == '.' || c == '-' || c == '_' || c == '@' || c == ':'

/-- Whether a text starts with a character of a term. -/
def startsTerm : List Char → Bool
  | [] => false
  | c :: _ => isTermChar c

/-- What has been found so far: the terms in the order of their first occurrence, last one first, and
the characters of the term being read, last one first. -/
structure Scan where
  found : List (List Char)
  current : List Char

namespace Scan

/-- Ends the current term. A term found before is not found again. -/
def flush (scan : Scan) : Scan :=
  if scan.current.isEmpty then scan
  else
    let term := scan.current.reverse
    ⟨if scan.found.contains term then scan.found else term :: scan.found, []⟩

/-- Takes one character, given the text after it. A joiner belongs to a term only between two of its
characters. -/
def step (scan : Scan) (c : Char) (rest : List Char) : Scan :=
  if isTermChar c then { scan with current := (Text.lowerChar c).reverse ++ scan.current }
  else if isJoiner c && !scan.current.isEmpty && startsTerm rest then
    { scan with current := c :: scan.current }
  else scan.flush

/-- Whether as many terms have been found as the limit allows. -/
def full (scan : Scan) : Option Nat → Bool
  | none => false
  | some limit => limit ≤ scan.found.length

/-- Takes characters until the limit is reached. -/
def run (limit : Option Nat) (scan : Scan) : List Char → Scan
  | [] => scan
  | c :: rest => if scan.full limit then scan else run limit (scan.step c rest) rest

end Scan

/-- The distinct terms of a text in lower case, in the order of their first occurrence: maximal runs of
letters and digits, held together by single joiners. -/
def terms (text : List Char) (limit : Option Nat) : List (List Char) :=
  let found := (Scan.run limit ⟨[], []⟩ text).flush.found.reverse
  match limit with
  | none => found
  | some n => found.take n

/-- The standard tokenizer. -/
def words : Tokenizer := fun text budget =>
  (terms text.toList (limit? budget)).map String.ofList

theorem length_words_le (text : String) {budget : Int32} (h : 0 < budget.toInt) :
    ((words text budget).length : Int) ≤ budget.toInt := by
  have hTerms : (terms text.toList (some budget.toInt.toNat)).length ≤ budget.toInt.toNat :=
    List.length_take_le _ _
  unfold words limit?
  rw [if_pos h, List.length_map]
  omega

/-- The keywords of an entry. -/
def derive (tokenizer : Tokenizer) (message source host : String) (severity : Severity)
    (budget : Int32) : List String :=
  tokenizer message budget ++
    ["s=" ++ source, "h=" ++ host, "v=" ++ String.ofList (natText severity.code)]

end Keywords
end LogIngest

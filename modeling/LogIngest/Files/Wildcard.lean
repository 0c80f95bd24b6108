import LogIngest.Decimal.Numeral

/-!
Patterns for the names of files. A question mark stands for any character, an asterisk for any run of
characters, brackets for one character of a set, and two asterisks for any number of directories.
-/

namespace LogIngest.Files

/-- A set of characters, as ranges of which both ends belong to the set. -/
abbrev CharRanges := List (Char × Char)

inductive WildcardToken where
  | exactly (c : Char)
  | anyChar
  | oneOf (ranges : CharRanges)
  | noneOf (ranges : CharRanges)
  | anyRun
  | anyDirectories
deriving DecidableEq, Repr

/-- What is wrong with a pattern. -/
inductive WildcardCause where
  | tooManyStars
  | partOfName
  | unclosedSet
deriving DecidableEq, Repr

/-- What is wrong with a pattern, and how many characters stand before. -/
structure WildcardFault where
  position : Nat
  cause : WildcardCause
deriving DecidableEq, Repr

namespace WildcardCause

def message : WildcardCause → String
  | tooManyStars => "wildcards are either regular `*` or recursive `**`"
  | partOfName => "recursive wildcards must form a single path component"
  | unclosedSet => "invalid range pattern"

end WildcardCause

namespace WildcardFault

def message (fault : WildcardFault) : String :=
  "Pattern syntax error near position " ++ String.ofList (natText fault.position) ++ ": " ++
    fault.cause.message

end WildcardFault

namespace Wildcard

/-- The ranges written between brackets. A hyphen at either end stands for itself. -/
def ranges : List Char → CharRanges
  | first :: '-' :: last :: rest => (first, last) :: ranges rest
  | c :: rest => (c, c) :: ranges rest
  | [] => []

/-- Cuts a set at its closing bracket. The first character of a set is never its end. -/
def closeSet : List Char → Option (List Char × List Char)
  | [] => none
  | first :: rest =>
    match rest.dropWhile (· != ']') with
    | [] => none
    | _ :: rest' => some (first :: rest.takeWhile (· != ']'), rest')

theorem closeSet_length {text set rest : List Char} (h : closeSet text = some (set, rest)) :
    rest.length < text.length := by
  unfold closeSet at h
  split at h
  · cases h
  · next first tail =>
    split at h
    · cases h
    · next x rest' hd =>
      cases h
      have hle : (tail.dropWhile (· != ']')).length ≤ tail.length :=
        List.Sublist.length_le (List.dropWhile_sublist _)
      rw [hd, List.length_cons] at hle
      simp only [List.length_cons]
      omega

/-- Reads the tokens of a pattern, given the character before and how many there are. -/
def tokensFrom (before : Option Char) (position : Nat) (text : List Char) :
    Except WildcardFault (List WildcardToken) :=
  match text with
  | [] => .ok []
  | '?' :: rest => (tokensFrom (some '?') (position + 1) rest).map (.anyChar :: ·)
  | '*' :: '*' :: '*' :: _ => .error ⟨position + 2, .tooManyStars⟩
  | '*' :: '*' :: rest =>
    if before.isSome && before != some '/' then .error ⟨position - 1, .partOfName⟩
    else
      match rest with
      | [] => .ok [.anyDirectories]
      | '/' :: rest => (tokensFrom (some '/') (position + 3) rest).map (.anyDirectories :: ·)
      | _ :: _ => .error ⟨position + 2, .partOfName⟩
  | '*' :: rest => (tokensFrom (some '*') (position + 1) rest).map (.anyRun :: ·)
  | '[' :: '!' :: rest =>
    match _h : closeSet rest with
    | some (set, after) =>
      (tokensFrom (some ']') (position + set.length + 3) after).map (.noneOf (ranges set) :: ·)
    | none => .error ⟨position, .unclosedSet⟩
  | '[' :: rest =>
    match _h : closeSet rest with
    | some (set, after) =>
      (tokensFrom (some ']') (position + set.length + 2) after).map (.oneOf (ranges set) :: ·)
    | none => .error ⟨position, .unclosedSet⟩
  | c :: rest => (tokensFrom (some c) (position + 1) rest).map (.exactly c :: ·)
termination_by text.length
decreasing_by
  all_goals simp_wf
  all_goals try have := closeSet_length _h
  all_goals omega

/-- The tokens of a pattern. -/
def tokens (pattern : String) : Except WildcardFault (List WildcardToken) :=
  tokensFrom none 0 pattern.toList

/-- Whether a set has a character. -/
def inRanges (set : CharRanges) (c : Char) : Bool :=
  set.any fun (first, last) => first ≤ c && c ≤ last

/-- What is left of a text after some or none of its characters, longest first. -/
def suffixes : List Char → List (List Char)
  | [] => [[]]
  | c :: rest => (c :: rest) :: suffixes rest

/-- Whether a whole name has the form of the tokens. -/
def fits : List WildcardToken → List Char → Bool
  | [], name => name.isEmpty
  | .anyRun :: rest, name | .anyDirectories :: rest, name => (suffixes name).any (fits rest)
  | _ :: _, [] => false
  | .exactly c :: rest, d :: name => c == d && fits rest name
  | .anyChar :: rest, _ :: name => fits rest name
  | .oneOf set :: rest, d :: name => inRanges set d && fits rest name
  | .noneOf set :: rest, d :: name => !inRanges set d && fits rest name

/-- Whether a text is a pattern and not just a path. -/
def isPattern (text : String) : Bool :=
  text.toList.any fun c => c == '*' || c == '?'

end Wildcard
end LogIngest.Files

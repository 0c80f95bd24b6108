/-!
Sets of characters, and the boolean operations on them.
-/

namespace LogIngest

/-- A set of characters, given by the code points at which membership changes, in increasing order:
a character belongs to the set when an odd number of edges lie at or below it. -/
structure CharSet where
  edges : Array Nat
deriving DecidableEq, Repr

namespace CharSet

/-- The number of edges at or below a code point, found by halving the range that can hold it. -/
def rank (set : CharSet) (point : Nat) : Nat :=
  search 0 set.edges.size
where
  /-- The edges before `low` are at or below the point, those from `high` on are above it. -/
  search (low high : Nat) : Nat :=
    if _h : low < high then
      let middle := (low + high) / 2
      if set.edges.getD middle 0 ≤ point then search (middle + 1) high else search low middle
    else low
  termination_by high - low

/-- Membership of a character. -/
def contains (set : CharSet) (c : Char) : Bool :=
  set.rank c.toNat % 2 == 1

/-- The set without members. -/
def empty : CharSet where
  edges := #[]

/-- The characters from one code point to another, both included. -/
def interval (first last : Nat) : CharSet where
  edges := if first ≤ last then #[first, last + 1] else #[]

/-- The set with one member. -/
def single (c : Char) : CharSet :=
  interval c.toNat c.toNat

/-- Walks along the edges of two sets in increasing order and keeps the code points at which the
combined membership changes. The flags say whether the walk is inside the first set, the second set
and the result. -/
def mergeEdges (op : Bool → Bool → Bool) (inFirst inSecond inResult : Bool) :
    List Nat → List Nat → List Nat
  | [], [] => []
  | a :: as, [] =>
    let now := op (!inFirst) inSecond
    keep a now (mergeEdges op (!inFirst) inSecond now as [])
  | [], b :: bs =>
    let now := op inFirst (!inSecond)
    keep b now (mergeEdges op inFirst (!inSecond) now [] bs)
  | a :: as, b :: bs =>
    if a < b then
      let now := op (!inFirst) inSecond
      keep a now (mergeEdges op (!inFirst) inSecond now as (b :: bs))
    else if b < a then
      let now := op inFirst (!inSecond)
      keep b now (mergeEdges op inFirst (!inSecond) now (a :: as) bs)
    else
      let now := op (!inFirst) (!inSecond)
      keep a now (mergeEdges op (!inFirst) (!inSecond) now as bs)
termination_by as bs => as.length + bs.length
where
  /-- An edge stays exactly when membership changes there. -/
  keep (edge : Nat) (now : Bool) (rest : List Nat) : List Nat :=
    if now == inResult then rest else edge :: rest

/-- The set whose membership is a boolean function of the memberships in two sets. -/
def combine (op : Bool → Bool → Bool) (first second : CharSet) : CharSet where
  edges :=
    let outside := op false false
    let rest := mergeEdges op false false outside first.edges.toList second.edges.toList
    (if outside then 0 :: rest else rest).toArray

def union (first second : CharSet) : CharSet :=
  combine (· || ·) first second

def inter (first second : CharSet) : CharSet :=
  combine (· && ·) first second

def diff (first second : CharSet) : CharSet :=
  combine (fun a b => a && !b) first second

def symmDiff (first second : CharSet) : CharSet :=
  combine (· != ·) first second

/-- All the other characters. -/
def compl (set : CharSet) : CharSet :=
  combine (fun _ b => !b) empty set

/-- The union of many sets. -/
def unions (sets : List CharSet) : CharSet :=
  sets.foldl union empty

end CharSet
end LogIngest

import LogIngest.Dictionary
import LogIngest.Entry.Basic

/-!
Statistics over the outcomes of entries, with tallies of how often each name has come up. They are
recorded one outcome at a time, and those of several workers can be merged. Main statement: adding to one
name changes the count of no other.
-/

namespace LogIngest

/-- Counts by name, in the order of the names. -/
abbrev Tally := Dictionary Nat

namespace Tally

/-- How often a name has come up. -/
def count (tally : Tally) (name : String) : Nat :=
  (tally.get? name).getD 0

/-- Adds to the count of a name, which is listed from then on. -/
def add (tally : Tally) (name : String) (n : Nat) : Tally :=
  tally.alter name fun old => old.getD 0 + n

/-- Adds another tally, name by name. -/
def merge (ours theirs : Tally) : Tally :=
  theirs.entries.foldl (fun tally (name, n) => tally.add name n) ours

theorem count_add (tally : Tally) (name other : String) (n : Nat) :
    (tally.add name n).count other =
      if other = name then tally.count name + n else tally.count other := by
  unfold add count
  rw [Dictionary.get?_alter]
  split <;> rfl

end Tally

/-- How long entries took. -/
structure Timing where
  total : Duration := 0
  /-- The shortest time; none before the first entry. -/
  least : Option Duration := none
  most : Duration := 0
  /-- The average time in microseconds. -/
  average : Float := 0

namespace Timing

/-- The average in microseconds of a total time over a number of entries; zero if there are none. -/
def mean (total : Duration) (entries : Nat) : Float :=
  if entries = 0 then 0 else Float.ofNat total.micros / Float.ofNat entries

/-- The shorter of two times that may be missing. -/
def lesser? : Option Duration → Option Duration → Option Duration
  | some a, some b => some (min a b)
  | some a, none => some a
  | none, b => b

/-- Adds the time of the last of so many entries. -/
def sample (timing : Timing) (elapsed : Duration) (entries : Nat) : Timing where
  total := timing.total + elapsed
  least := lesser? timing.least (some elapsed)
  most := max timing.most elapsed
  average := mean (timing.total + elapsed) entries

/-- Adds other times, which makes so many entries in all. -/
def merge (ours theirs : Timing) (entries : Nat) : Timing where
  total := ours.total + theirs.total
  least := lesser? ours.least theirs.least
  most := max ours.most theirs.most
  average := mean (ours.total + theirs.total) entries

end Timing

structure Statistics where
  total : Nat := 0
  stored : Nat := 0
  skipped : Nat := 0
  /-- The entries skipped for a fault of their sender. -/
  contractViolations : Nat := 0
  /-- The fields that could not be extracted from stored entries. -/
  toleratedFailures : Nat := 0
  /-- The stored entries of each parser. -/
  parsers : Tally := ∅
  /-- The skipped entries by the kind of the reason. -/
  reasons : Tally := ∅
  timing : Timing := {}

namespace Statistics

/-- Counts an entry that is stored. -/
def recordStored (statistics : Statistics) (result : Result) : Statistics :=
  { statistics with
    total := statistics.total + 1
    stored := statistics.stored + 1
    toleratedFailures := statistics.toleratedFailures + result.failures.length
    parsers := statistics.parsers.add result.parser 1
    timing := statistics.timing.sample (result.elapsed.getD 0) (statistics.total + 1) }

/-- Counts an entry that is skipped. -/
def recordSkipped (statistics : Statistics) (reason : SkipReason) (elapsed : Duration) :
    Statistics :=
  { statistics with
    total := statistics.total + 1
    skipped := statistics.skipped + 1
    contractViolations :=
      statistics.contractViolations + if reason.isContractViolation then 1 else 0
    reasons := statistics.reasons.add reason.kind 1
    timing := statistics.timing.sample elapsed (statistics.total + 1) }

/-- Counts an entry. The time given is that of a skipped entry; a result has its own. -/
def record (statistics : Statistics) (outcome : Outcome) (elapsed : Duration) : Statistics :=
  match outcome with
  | .ok result => statistics.recordStored result
  | .error reason => statistics.recordSkipped reason elapsed

/-- Adds the statistics of other entries. -/
def merge (ours theirs : Statistics) : Statistics where
  total := ours.total + theirs.total
  stored := ours.stored + theirs.stored
  skipped := ours.skipped + theirs.skipped
  contractViolations := ours.contractViolations + theirs.contractViolations
  toleratedFailures := ours.toleratedFailures + theirs.toleratedFailures
  parsers := ours.parsers.merge theirs.parsers
  reasons := ours.reasons.merge theirs.reasons
  timing := ours.timing.merge theirs.timing (ours.total + theirs.total)

/-- A part of a whole in percent; zero of nothing. -/
def percentage (part whole : Nat) : Float :=
  if whole = 0 then 0 else Float.ofNat part / Float.ofNat whole * 100

def storeRate (statistics : Statistics) : Float :=
  percentage statistics.stored statistics.total

def skipRate (statistics : Statistics) : Float :=
  percentage statistics.skipped statistics.total

end Statistics
end LogIngest

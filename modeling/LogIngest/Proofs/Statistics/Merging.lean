import Mathlib.Data.List.Perm.Basic
import LogIngest.Proofs.Dictionary
import LogIngest.Statistics.Basic

/-!
Statistics of many outcomes. Merging is commutative and associative, and recording an outcome is merging
with the statistics of that outcome alone. Main statements: neither the order in which outcomes are
recorded nor the way they are split over several statistics makes a difference.
-/

namespace LogIngest

namespace Tally

/-- Adding to a name adds to what was counted under it, and leaves the others alone. -/
theorem get?_add (tally : Tally) (name key : String) (n : Nat) :
    (tally.add name n).get? key =
      (tally.get? key).merge (· + ·) (if key = name then some n else none) := by
  unfold add
  rw [Dictionary.get?_alter]
  split
  · next h =>
      subst h
      cases tally.get? key <;> simp
  · simp

/-- Adding another tally name by name adds their counts. -/
theorem get?_foldl_add (pairs : List (String × Nat)) (h : Ascending pairs) (tally : Tally)
    (key : String) :
    (pairs.foldl (fun tally (name, n) => tally.add name n) tally).get? key =
      (tally.get? key).merge (· + ·) (pairs.lookup key) := by
  induction pairs generalizing tally with
  | nil => simp
  | cons pair rest ih =>
      obtain ⟨name, n⟩ := pair
      obtain ⟨hFirst, hRest⟩ := List.pairwise_cons.mp h
      rw [List.foldl_cons, ih hRest, get?_add, List.lookup_cons]
      by_cases hk : key = name
      · subst hk
        have hAbsent : rest.lookup key = none := by
          rw [List.lookup_eq_none_iff]
          intro p hp
          exact bne_iff_ne.mpr fun he => String.lt_irrefl key (he ▸ hFirst p hp)
        simp [hAbsent]
      · simp [hk, beq_false_of_ne hk]

/-- A merged tally lists the names of both, with the sums of their counts. -/
theorem get?_merge (ours theirs : Tally) (key : String) :
    (ours.merge theirs).get? key = (ours.get? key).merge (· + ·) (theirs.get? key) :=
  get?_foldl_add theirs.entries theirs.ascending ours key

/-- It does not matter which of two is merged into the other. -/
theorem merge_comm (a b : Tally) : a.merge b = b.merge a := by
  apply Dictionary.ext_get?
  intro key
  rw [get?_merge, get?_merge]
  exact Std.Commutative.comm _ _

/-- It does not matter in which order several are merged. -/
theorem merge_assoc (a b c : Tally) : (a.merge b).merge c = a.merge (b.merge c) := by
  apply Dictionary.ext_get?
  intro key
  simp only [get?_merge]
  exact Std.Associative.assoc _ _ _

@[simp] theorem merge_empty (tally : Tally) : tally.merge ∅ = tally := rfl

/-- Adding to a name is merging with the tally of that name alone. -/
theorem merge_add_empty (tally : Tally) (name : String) (n : Nat) :
    tally.merge (add ∅ name n) = tally.add name n := by
  apply Dictionary.ext_get?
  intro key
  have hEmpty : Dictionary.get? (∅ : Tally) key = none := rfl
  rw [get?_merge, get?_add, get?_add, hEmpty, Option.merge_none_left]

end Tally

namespace Timing

/-- The lesser of two times is the same from both sides; a missing time is none of them. -/
theorem lesser?_comm (a b : Option Duration) : lesser? a b = lesser? b a := by
  cases a with
  | none => cases b <;> rfl
  | some x =>
      cases b with
      | none => rfl
      | some y => simp only [lesser?, Duration.min_comm x]

theorem lesser?_assoc (a b c : Option Duration) :
    lesser? (lesser? a b) c = lesser? a (lesser? b c) := by
  cases a <;> cases b <;> cases c <;> try rfl
  next x y z => simp only [lesser?, Duration.min_assoc]

theorem merge_comm (a b : Timing) (entries : Nat) : a.merge b entries = b.merge a entries := by
  simp only [merge, Duration.add_comm a.total, lesser?_comm a.least, Duration.max_comm a.most]

/-- The number of entries at the first of two merges has no effect: the average is made anew. -/
theorem merge_assoc (a b c : Timing) (first second entries : Nat) :
    (a.merge b first).merge c entries = a.merge (b.merge c second) entries := by
  simp only [merge, Duration.add_assoc, lesser?_assoc, Duration.max_assoc]

/-- A sample is merged like the times of a single entry. -/
theorem merge_sample (timing : Timing) (elapsed : Duration) (first entries : Nat) :
    timing.merge (sample {} elapsed first) entries = timing.sample elapsed entries := by
  have hTotal : 0 + elapsed = elapsed := by rw [Duration.add_comm, Duration.add_zero]
  have hMost : max 0 elapsed = elapsed := by rw [Duration.max_comm, Duration.max_zero]
  simp only [merge, sample, lesser?, hTotal, hMost]

end Timing

namespace Statistics

theorem merge_comm (a b : Statistics) : a.merge b = b.merge a := by
  simp only [merge, Nat.add_comm a.total, Nat.add_comm a.stored, Nat.add_comm a.skipped,
    Nat.add_comm a.contractViolations, Nat.add_comm a.toleratedFailures,
    Tally.merge_comm a.parsers, Tally.merge_comm a.reasons, Timing.merge_comm a.timing]

theorem merge_assoc (a b c : Statistics) : (a.merge b).merge c = a.merge (b.merge c) := by
  simp only [merge, Nat.add_assoc, Tally.merge_assoc,
    Timing.merge_assoc _ _ _ _ (b.total + c.total)]

/-- Recording an outcome is merging with the statistics of that outcome alone. -/
theorem merge_record_empty (statistics : Statistics) (outcome : Outcome) (elapsed : Duration) :
    statistics.merge (record {} outcome elapsed) = statistics.record outcome elapsed := by
  cases outcome with
  | ok result =>
      simp only [merge, record, recordStored, Nat.zero_add, Nat.add_zero, Tally.merge_add_empty,
        Tally.merge_empty, Timing.merge_sample]
  | error reason =>
      simp only [merge, record, recordSkipped, Nat.zero_add, Nat.add_zero, Tally.merge_add_empty,
        Tally.merge_empty, Timing.merge_sample]

/-- It makes no difference to which part of merged statistics an outcome is added. -/
theorem merge_record (ours theirs : Statistics) (outcome : Outcome) (elapsed : Duration) :
    ours.merge (theirs.record outcome elapsed) = (ours.merge theirs).record outcome elapsed := by
  rw [← merge_record_empty theirs, ← merge_record_empty (ours.merge theirs), merge_assoc]

/-- An outcome may be recorded before or after merging. -/
theorem record_merge (ours theirs : Statistics) (outcome : Outcome) (elapsed : Duration) :
    (ours.record outcome elapsed).merge theirs = (ours.merge theirs).record outcome elapsed := by
  rw [merge_comm, merge_record, merge_comm]

/-- Records outcomes one after another, each with the time that it took. -/
def recordAll (statistics : Statistics) (samples : List (Outcome × Duration)) : Statistics :=
  samples.foldl (fun all (outcome, elapsed) => all.record outcome elapsed) statistics

/-- The statistics of some outcomes, recorded one after another. -/
def ofSamples (samples : List (Outcome × Duration)) : Statistics :=
  recordAll {} samples

/-- Two outcomes may be recorded in either order. -/
theorem record_right_comm (statistics : Statistics) (first second : Outcome × Duration) :
    (statistics.record first.1 first.2).record second.1 second.2 =
      (statistics.record second.1 second.2).record first.1 first.2 := by
  rw [← merge_record_empty _ second.1, record_merge, merge_record_empty]

/-- The order in which outcomes are recorded makes no difference. -/
theorem recordAll_perm {samples others : List (Outcome × Duration)} (h : samples.Perm others)
    (statistics : Statistics) : statistics.recordAll samples = statistics.recordAll others :=
  h.foldl_eq' (fun x _ y _ all => record_right_comm all x y) statistics

/-- Outcomes of one part may be recorded in the whole. -/
theorem merge_recordAll (ours theirs : Statistics) (samples : List (Outcome × Duration)) :
    ours.merge (theirs.recordAll samples) = (ours.merge theirs).recordAll samples := by
  induction samples generalizing theirs with
  | nil => rfl
  | cons sample rest ih =>
      simp only [recordAll, List.foldl_cons] at ih ⊢
      rw [ih, merge_record]

/-- An outcome recorded in the first of several parts is recorded in all of them together. -/
theorem foldl_merge_record (parts : List Statistics) (statistics : Statistics) (outcome : Outcome)
    (elapsed : Duration) :
    parts.foldl merge (statistics.record outcome elapsed) =
      (parts.foldl merge statistics).record outcome elapsed := by
  induction parts generalizing statistics with
  | nil => rfl
  | cons part rest ih => rw [List.foldl_cons, record_merge, ih, List.foldl_cons]

/-- An outcome recorded in one of several statistics is recorded in all of them merged. -/
theorem foldl_merge_set {parts : List Statistics} {index : Nat} {part : Statistics}
    (h : parts[index]? = some part) (statistics : Statistics) (outcome : Outcome)
    (elapsed : Duration) :
    (parts.set index (part.record outcome elapsed)).foldl merge statistics =
      (parts.foldl merge statistics).record outcome elapsed := by
  induction parts generalizing index statistics with
  | nil => simp at h
  | cons first rest ih =>
      cases index with
      | zero =>
          obtain rfl : first = part := by simpa using h
          rw [List.set_cons_zero, List.foldl_cons, List.foldl_cons, merge_record,
            foldl_merge_record]
      | succ index =>
          rw [List.set_cons_succ, List.foldl_cons, List.foldl_cons]
          exact ih (by simpa using h) _

/-- Fresh statistics add nothing to statistics whose average is that of their total time. -/
theorem merge_empty {statistics : Statistics}
    (h : statistics.timing.average = Timing.mean statistics.timing.total statistics.total) :
    statistics.merge {} = statistics := by
  have hLeast : Timing.lesser? statistics.timing.least none = statistics.timing.least := by
    cases statistics.timing.least <;> rfl
  simp only [merge, Timing.merge, Nat.add_zero, Tally.merge_empty, Duration.add_zero, hLeast,
    Duration.max_zero, ← h]

@[simp] theorem merge_self_empty : merge {} {} = {} :=
  merge_empty rfl

end Statistics
end LogIngest

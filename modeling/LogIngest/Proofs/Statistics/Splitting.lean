import Mathlib.Algebra.GroupWithZero.Nat
import LogIngest.Proofs.Statistics.Merging

/-!
Recording that is split over several workers. Main statement: however outcomes are dealt out to workers,
in whatever order each worker records its share, and however the statistics of the workers are merged, the
result is that of recording all outcomes one after another, and each part of it is a number, a sum, a
least or a greatest over all of them.
-/

namespace LogIngest

theorem Timing.lesser?_min? (times : List Duration) (elapsed : Duration) :
    lesser? times.min? (some elapsed) = (elapsed :: times).min? := by
  rw [List.min?_cons]
  cases times.min? with
  | none => rfl
  | some least => simp only [lesser?, Duration.min_comm least, Option.elim_some]

theorem Timing.max_max? (times : List Duration) (elapsed : Duration) :
    max (times.max?.getD 0) elapsed = (elapsed :: times).max?.getD 0 := by
  rw [List.max?_cons]
  cases times.max? with
  | none => exact (Duration.max_comm 0 elapsed).trans (Duration.max_zero elapsed)
  | some most => exact Duration.max_comm most elapsed

namespace Tally

/-- Counts a name, if there is one. -/
def note (tally : Tally) (name : Option String) : Tally :=
  match name with
  | some name => tally.add name 1
  | none => tally

theorem count_note (tally : Tally) (name : Option String) (other : String) :
    (tally.note name).count other = tally.count other + if name == some other then 1 else 0 := by
  cases name with
  | none => rfl
  | some name =>
      by_cases h : other = name
      · simp [note, count_add, h]
      · simp [note, count_add, h, Ne.symm h]

end Tally

namespace Statistics

/-- An outcome, and the time that the entry took if it is skipped. -/
abbrev Sample := Outcome × Duration

namespace Sample

def parser? (sample : Sample) : Option String :=
  match sample.1 with
  | .ok result => some result.parser
  | .error _ => none

def reason? (sample : Sample) : Option String :=
  match sample.1 with
  | .ok _ => none
  | .error reason => some reason.kind

def failures (sample : Sample) : Nat :=
  match sample.1 with
  | .ok result => result.failures.length
  | .error _ => 0

/-- The time that the entry took. A stored one that was not measured counts as having taken none. -/
def time (sample : Sample) : Duration :=
  match sample.1 with
  | .ok result => result.elapsed.getD 0
  | .error _ => sample.2

end Sample

/-- What a sample adds to statistics, whether it is stored or skipped. -/
theorem record_eq (statistics : Statistics) (sample : Sample) :
    statistics.record sample.1 sample.2 = {
      total := statistics.total + 1
      stored := statistics.stored + if sample.parser?.isSome then 1 else 0
      skipped := statistics.skipped + if sample.reason?.isSome then 1 else 0
      contractViolations :=
        statistics.contractViolations + if sample.reason? == some "BlankArgument" then 1 else 0
      toleratedFailures := statistics.toleratedFailures + sample.failures
      parsers := statistics.parsers.note sample.parser?
      reasons := statistics.reasons.note sample.reason?
      timing := statistics.timing.sample sample.time (statistics.total + 1) } := by
  obtain ⟨outcome, elapsed⟩ := sample
  cases outcome with
  | ok result => rfl
  | error reason =>
      -- whether a reason is a violation of the contract shows in its kind
      cases reason <;> rfl

/-- The statistics tell of all samples, and of nothing else. -/
structure Summarises (statistics : Statistics) (samples : List Sample) : Prop where
  total : statistics.total = samples.length
  stored : statistics.stored = samples.countP fun sample => sample.parser?.isSome
  skipped : statistics.skipped = samples.countP fun sample => sample.reason?.isSome
  contractViolations :
    statistics.contractViolations = samples.countP fun sample => sample.reason? == some "BlankArgument"
  toleratedFailures : statistics.toleratedFailures = (samples.map Sample.failures).sum
  parsers : ∀ name, statistics.parsers.count name =
    samples.countP fun sample => sample.parser? == some name
  reasons : ∀ kind, statistics.reasons.count kind =
    samples.countP fun sample => sample.reason? == some kind
  time : statistics.timing.total = .ofMicros (samples.map fun sample => sample.time.micros).sum
  least : statistics.timing.least = (samples.map Sample.time).min?
  most : statistics.timing.most = (samples.map Sample.time).max?.getD 0
  average : statistics.timing.average = Timing.mean statistics.timing.total statistics.total

theorem summarises_nil : Summarises {} [] := by
  refine ⟨rfl, rfl, rfl, rfl, rfl, ?_, ?_, rfl, rfl, rfl, rfl⟩
  · intro name
    rfl
  · intro kind
    rfl

theorem Summarises.record {statistics : Statistics} {samples : List Sample}
    (h : statistics.Summarises samples) (sample : Sample) :
    (statistics.record sample.1 sample.2).Summarises (sample :: samples) := by
  rw [record_eq]
  refine ⟨?_, ?_, ?_, ?_, ?_, ?_, ?_, ?_, ?_, ?_, rfl⟩
  · rw [h.total, List.length_cons]
  · rw [h.stored, List.countP_cons]
  · rw [h.skipped, List.countP_cons]
  · rw [h.contractViolations, List.countP_cons]
  · rw [h.toleratedFailures, List.map_cons, List.sum_cons, Nat.add_comm sample.failures]
  · intro name
    rw [Tally.count_note, h.parsers, List.countP_cons]
  · intro kind
    rw [Tally.count_note, h.reasons, List.countP_cons]
  · -- the sum on the left is cut off twice, that on the right once
    ext
    simp only [Timing.sample, h.time, List.map_cons, List.sum_cons, Duration.micros_add,
      Duration.micros_ofMicros]
    omega
  · rw [List.map_cons, ← Timing.lesser?_min?, ← h.least]
    rfl
  · rw [List.map_cons, ← Timing.max_max?, ← h.most]
    rfl

theorem ofSamples_cons (sample : Sample) (rest : List Sample) :
    ofSamples (sample :: rest) = (ofSamples rest).record sample.1 sample.2 := by
  -- what is recorded first can as well be recorded last
  have hLast : (sample :: rest).Perm (rest ++ [sample]) := (List.perm_append_singleton sample rest).symm
  unfold ofSamples
  rw [recordAll_perm hLast]
  simp [recordAll]

theorem summarises_ofSamples (samples : List Sample) : (ofSamples samples).Summarises samples := by
  induction samples with
  | nil => exact summarises_nil
  | cons sample rest ih =>
      rw [ofSamples_cons]
      exact ih.record sample

theorem merge_ofSamples (ours theirs : List Sample) :
    (ofSamples ours).merge (ofSamples theirs) = ofSamples (ours ++ theirs) := by
  -- merging makes the average anew, so ours has to be one before fresh statistics leave it alone
  have hEmpty : (ofSamples ours).merge {} = ofSamples ours :=
    merge_empty (summarises_ofSamples ours).average
  calc (ofSamples ours).merge (ofSamples theirs)
      = ((ofSamples ours).merge {}).recordAll theirs := merge_recordAll _ _ theirs
    _ = (ofSamples ours).recordAll theirs := by rw [hEmpty]
    _ = ofSamples (ours ++ theirs) := by simp [ofSamples, recordAll]

/-- How recording is split: a worker records its share, and the statistics of two parts are merged. A share
may be empty. -/
inductive Split where
  | worker (share : List Sample)
  | merged (ours theirs : Split)

namespace Split

def samples : Split → List Sample
  | worker share => share
  | merged ours theirs => ours.samples ++ theirs.samples

def statistics : Split → Statistics
  | worker share => .ofSamples share
  | merged ours theirs => ours.statistics.merge theirs.statistics

theorem statistics_eq (split : Split) : split.statistics = .ofSamples split.samples := by
  induction split with
  | worker share => rfl
  | merged ours theirs hOurs hTheirs =>
      rw [statistics, hOurs, hTheirs, merge_ofSamples, samples]

/-- However samples are dealt out to workers, in whatever order each of them records its share, and however
their statistics are merged, the result is that of recording all samples one after another, and it tells of
each of them once. -/
theorem statistics_eq_ofSamples {split : Split} {samples : List Sample}
    (h : split.samples.Perm samples) :
    split.statistics = .ofSamples samples ∧ split.statistics.Summarises samples := by
  have hSequential : split.statistics = .ofSamples samples := by
    calc split.statistics
        = .ofSamples split.samples := statistics_eq split
      _ = .ofSamples samples := recordAll_perm h {}
  refine ⟨hSequential, ?_⟩
  rw [hSequential]
  exact summarises_ofSamples samples

end Split

/-- Three outcomes: an entry stored without one of its fields, whose time was not measured, one skipped for
a blank host, and one that took the longest time there is. -/
def threeSamples : List Sample :=
  [(.ok {
      entry := {
        timestamp := {
          date := ⟨2024, 1, 15, by decide, by decide, by decide⟩
          clock := (Calendar.Clock.of? 10 30 0 0).get (by decide) }
        source := "proxy"
        host := "web-1"
        severity := .information
        message := "GET"
        keywords := ["get", "s=proxy", "h=web-1", "v=6"]
        fields := ∅ }
      failures := [⟨"status", .missingValue⟩]
      parser := "access" }, .ofMicros 9),
    (.error (.blankArgument .host), .ofMicros 5),
    (.error (.malformedJson "expected value at line 1 column 1"), .ofMicros 18446744073709551615)]

def Split.amongThree : Split :=
  .merged (.worker (threeSamples.drop 2))
    (.merged (.worker []) (.worker (threeSamples.take 2).reverse))

theorem Split.statistics_eq_ofSamples_three :
    Split.amongThree.samples.Perm threeSamples ∧
      Split.amongThree.statistics = .ofSamples threeSamples ∧
      Split.amongThree.statistics.Summarises threeSamples := by
  have hPerm : Split.amongThree.samples.Perm threeSamples := List.reverse_perm threeSamples
  exact ⟨hPerm, statistics_eq_ofSamples hPerm⟩

end Statistics
end LogIngest

import LogIngest.Proofs.Statistics.Merging

/-!
Outcomes and statistics apart from the times that they note. Main statements: the counts of recorded
outcomes depend only on which outcomes they are, neither on their times nor on their order; and of an outcome
that is stored they depend on nothing but its parser and the number of its failures.
-/

namespace LogIngest

/-- The outcome without the time that it took. -/
def Outcome.untimed (outcome : Outcome) : Outcome :=
  outcome.map fun result => { result with elapsed := none }

@[simp] theorem Outcome.untimed_timed (outcome : Outcome) (elapsed : Duration) :
    (outcome.timed elapsed).untimed = outcome.untimed := by
  cases outcome <;> rfl

@[simp] theorem Outcome.untimed_untimed (outcome : Outcome) :
    outcome.untimed.untimed = outcome.untimed := by
  cases outcome <;> rfl

namespace Statistics

/-- The counts of the statistics, without times. -/
def untimed (statistics : Statistics) : Statistics :=
  { statistics with timing := {} }

theorem untimed_record (statistics : Statistics) (outcome : Outcome) (elapsed : Duration) :
    (statistics.record outcome elapsed).untimed =
      (statistics.untimed.record outcome.untimed 0).untimed := by
  cases outcome <;> rfl

/-- Times have no effect on counts, neither those before nor those of the outcomes. -/
theorem untimed_recordAll {statistics other : Statistics} (h : statistics.untimed = other.untimed)
    (samples : List (Outcome × Duration)) :
    (statistics.recordAll samples).untimed =
      (other.recordAll (samples.map fun sample => (sample.1.untimed, 0))).untimed := by
  induction samples generalizing statistics other with
  | nil => exact h
  | cons sample rest ih =>
      have hSample : (statistics.record sample.1 sample.2).untimed =
          (other.record sample.1.untimed 0).untimed := by
        rw [untimed_record, untimed_record other, h, Outcome.untimed_untimed]
      exact ih hSample

/-- The counts of recorded outcomes depend only on which outcomes they are. -/
theorem untimed_ofSamples_perm {samples others : List (Outcome × Duration)}
    (h : (samples.map fun sample => sample.1.untimed).Perm
      (others.map fun sample => sample.1.untimed)) :
    (ofSamples samples).untimed = (ofSamples others).untimed := by
  unfold ofSamples
  rw [untimed_recordAll rfl, untimed_recordAll rfl others]
  have hSamples : (samples.map fun sample => (sample.1.untimed, (0 : Duration))).Perm
      (others.map fun sample => (sample.1.untimed, (0 : Duration))) := by
    simpa [Function.comp_def] using h.map fun outcome => (outcome, (0 : Duration))
  rw [recordAll_perm hSamples]

end Statistics

/-- Two outcomes count alike: they are stored by parsers of one name with as many failures, or skipped for the
same reason. -/
inductive Outcome.CountsAs : Outcome → Outcome → Prop where
  | stored {result other : Result} (hParser : result.parser = other.parser)
    (hFailures : result.failures.length = other.failures.length) : CountsAs (.ok result) (.ok other)
  | skipped (reason : SkipReason) : CountsAs (.error reason) (.error reason)

namespace Outcome.CountsAs

theorem refl (outcome : Outcome) : outcome.CountsAs outcome := by
  cases outcome with
  | ok result => exact .stored rfl rfl
  | error reason => exact .skipped reason

variable {outcome other : Outcome} {statistics others : Statistics}

/-- Neither the times of the statistics nor those of the outcomes matter. -/
theorem untimed_record (h : outcome.CountsAs other) (hStatistics : statistics.untimed = others.untimed)
    (elapsed otherElapsed : Duration) :
    (statistics.record outcome elapsed).untimed = (others.record other otherElapsed).untimed := by
  rw [Statistics.untimed_record, Statistics.untimed_record others, hStatistics]
  cases h with
  | stored hParser hFailures =>
      simp only [Outcome.untimed, Except.map, Statistics.record, Statistics.recordStored, Statistics.untimed,
        hParser, hFailures]
  | skipped reason => rfl

/-- Outcomes that count alike one by one have the same counts. -/
theorem untimed_recordAll {samples otherSamples : List (Outcome × Duration)}
    (h : List.Forall₂ (fun sample other => sample.1.CountsAs other.1) samples otherSamples)
    (hStatistics : statistics.untimed = others.untimed) :
    (statistics.recordAll samples).untimed = (others.recordAll otherSamples).untimed := by
  induction h generalizing statistics others with
  | nil => exact hStatistics
  | cons hFirst _ ih => exact ih (hFirst.untimed_record hStatistics _ _)

end Outcome.CountsAs
end LogIngest

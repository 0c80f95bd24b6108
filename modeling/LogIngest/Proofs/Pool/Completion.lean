import LogIngest.Proofs.Pool.Accounting

/-!
Runs of a pool that have come to their end. Some move is possible as long as anything is left to do, so
a run ends only when every outcome has been collected. Main statement: whatever the schedule, the report
of a run is that of parsing the entries one after another, and no run fails.
-/

namespace LogIngest.Pool

open scoped List

namespace Report

/-- The report without times. -/
def untimed (report : Report) : Report where
  outcomes := report.outcomes.map (Numbered.map Outcome.untimed)
  statistics := report.statistics.untimed

/-- The report of parsing entries one after another, each outcome being recorded as soon as it is
there. -/
def sequential (parse : RawEntry → Outcome) (entries : List RawEntry) : Report where
  outcomes := entries.mapIdx fun i entry => ⟨i, parse entry⟩
  statistics := entries.foldl (fun all entry => all.record (parse entry) 0) {}

end Report

namespace State

variable {terms : Terms} {state : State} {entries : List RawEntry}

theorem isFinished_iff :
    state.isFinished = true ↔ state.pending = [] ∧ state.work = [] ∧
      (∀ worker ∈ state.workers, worker.held = none) ∧ state.results = [] := by
  simp only [isFinished, Bool.and_eq_true, List.isEmpty_iff, List.all_eq_true, Worker.isBusy,
    Bool.not_eq_true', Option.isSome_eq_false_iff, Option.isNone_iff_eq_none, and_assoc]

/-- As long as anything is left to do, some move is possible. -/
theorem isFinished_of_stuck (hStaffed : 0 < state.workers.length) (hRoom : 0 < terms.capacity)
    (hStuck : ∀ move, state.move? terms move = none) : state.isFinished = true := by
  have hResults : state.results = [] := by
    cases hr : state.results with
    | nil => rfl
    | cons outcome results =>
        have hNone := hStuck .collect
        simp [move?, collect?, hr] at hNone
  have hIdle : ∀ worker ∈ state.workers, worker.held = none := by
    intro worker hMem
    obtain ⟨index, hWorker⟩ := List.getElem?_of_mem hMem
    cases hHeld : worker.held with
    | none => rfl
    | some outcome =>
        have hNone := hStuck (.deliver index)
        simp [move?, deliver?, hWorker, hHeld, hResults, hRoom] at hNone
  have hWork : state.work = [] := by
    cases hw : state.work with
    | nil => rfl
    | cons item work =>
        obtain ⟨worker, rest, hWorkers⟩ := List.exists_cons_of_length_pos hStaffed
        have hHeld := hIdle worker (by simp [hWorkers])
        have hNone := hStuck (.take 0 0)
        simp [move?, take?, hw, hWorkers, Worker.isBusy, hHeld] at hNone
  have hPending : state.pending = [] := by
    cases hp : state.pending with
    | nil => rfl
    | cons item pending =>
        have hNone := hStuck .submit
        simp [move?, submit?, hp, hWork, hRoom] at hNone
  exact isFinished_iff.mpr ⟨hPending, hWork, hIdle, hResults⟩

theorem pairwise_due (parse : RawEntry → Outcome) (entries : List RawEntry) :
    (due parse entries).Pairwise fun a b => a.sequence < b.sequence := by
  rw [List.pairwise_iff_getElem]
  intro i j hi hj hlt
  simpa [due] using hlt

/-- Outcomes that stand in the order of their entries are found there by their positions. -/
theorem eq_due_of_perm {parse : RawEntry → Outcome} {outcomes : List (Numbered Outcome)}
    (hPerm : outcomes ~ due parse entries)
    (hSorted : outcomes.Pairwise fun a b => a.sequence ≤ b.sequence) :
    outcomes = due parse entries := by
  refine hPerm.eq_of_pairwise ?_ hSorted ((pairwise_due parse entries).imp Nat.le_of_lt)
  intro a b ha hb hab hba
  obtain ⟨i, hi, rfl⟩ := List.mem_iff_getElem.mp (hPerm.subset ha)
  obtain ⟨j, hj, rfl⟩ := List.mem_iff_getElem.mp hb
  have hIndex : i = j := by
    have hEq := Nat.le_antisymm hab hba
    simpa [due] using hEq
  subst hIndex
  rfl

theorem pairwise_report (state : State) :
    state.report.outcomes.Pairwise fun a b => a.sequence ≤ b.sequence := by
  have hSorted : (state.collected.mergeSort fun a b => a.sequence ≤ b.sequence).Pairwise
      fun a b => decide (a.sequence ≤ b.sequence) = true := by
    apply List.pairwise_mergeSort
    · intro a b c hab hbc
      simp only [decide_eq_true_eq] at hab hbc ⊢
      exact Nat.le_trans hab hbc
    · intro a b
      simpa using Nat.le_total a.sequence b.sequence
  exact hSorted.imp fun h => by simpa using h

theorem outcomes_sequential (parse : RawEntry → Outcome) (entries : List RawEntry) :
    (Report.sequential parse entries).untimed.outcomes = due parse entries := by
  apply List.ext_getElem?
  intro i
  simp [Report.untimed, Report.sequential, due, Numbered.map, Function.comp_def]

theorem statistics_sequential (parse : RawEntry → Outcome) (entries : List RawEntry) :
    (Report.sequential parse entries).statistics =
      .ofSamples (entries.map fun entry => (parse entry, 0)) := by
  simp [Report.sequential, Statistics.ofSamples, Statistics.recordAll, List.foldl_map]

/-- The report of a finished run is that of parsing the entries one after another. -/
theorem Accounted.untimed_report {parse : RawEntry → Outcome} (inv : state.Accounted parse entries)
    (hFinished : state.isFinished = true) :
    state.report.untimed = (Report.sequential parse entries).untimed := by
  obtain ⟨hPending, hWork, hIdle, hResults⟩ := isFinished_iff.mp hFinished
  have hHeld : state.workers.filterMap Worker.held = [] := List.filterMap_eq_nil_iff.mpr hIdle
  have hParsed : state.parsed = state.collected := by simp [parsed, hHeld, hResults]
  have hPlaced : state.collected.map (Numbered.map Outcome.untimed) ~ due parse entries := by
    simpa [account, waiting, hPending, hWork, hParsed] using inv.placed
  have hOutcomes : state.report.untimed.outcomes = due parse entries := by
    refine eq_due_of_perm (.trans ((List.mergeSort_perm _ _).map _) hPlaced) ?_
    simpa only [Report.untimed, List.pairwise_map, Numbered.map] using pairwise_report state
  have hStatistics : state.report.statistics.untimed =
      (Report.sequential parse entries).statistics.untimed := by
    obtain ⟨samples, hSamples, hRecorded⟩ := inv.recorded
    have hReport : state.report.statistics = .ofSamples samples := by
      simpa [report, statistics, List.foldl_map] using hSamples
    rw [hReport, statistics_sequential]
    apply Statistics.untimed_ofSamples_perm
    have hValues : (samples.map Prod.fst).map Outcome.untimed ~
        (due parse entries).map Numbered.value := by
      rw [hParsed] at hRecorded
      refine (hRecorded.map _).trans ?_
      simpa [Numbered.map, Function.comp_def] using hPlaced.map Numbered.value
    have hDue : (due parse entries).map Numbered.value =
        entries.map fun entry => (parse entry).untimed := by
      apply List.ext_getElem?
      intro i
      simp [due, Function.comp_def]
    simpa [hDue, Function.comp_def] using hValues
  rw [← outcomes_sequential] at hOutcomes
  simp only [Report.untimed] at hOutcomes ⊢
  rw [hOutcomes, hStatistics]

end State
end LogIngest.Pool

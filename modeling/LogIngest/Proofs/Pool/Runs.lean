import LogIngest.Proofs.Pool.Completion

/-!
What the runs of a pool return. Main statement: a pool that could be built never fails, and under every
schedule, as well as without queues, it reports what its repository makes of the entries one by one.
-/

namespace LogIngest.Pool

namespace State

variable {terms : Terms} {state : State} {elapsed : Nat → Duration}

theorem stuck_of_isFinished (h : state.isFinished = true) (move : Move) :
    state.move? terms move = none := by
  obtain ⟨hPending, hWork, hIdle, hResults⟩ := isFinished_iff.mp h
  cases move with
  | submit => simp [move?, submit?, hPending]
  | take => simp [move?, take?, hWork]
  | deliver index =>
      cases hWorker : state.workers[index]? with
      | none => simp [move?, deliver?, hWorker]
      | some worker =>
          have hHeld := hIdle worker (List.mem_of_getElem? hWorker)
          simp [move?, deliver?, hWorker, hHeld]
  | collect => simp [move?, collect?, hResults]

/-- The schedule goes on as long as anything is left to do. -/
theorem isFinished_of_nextMove (hStaffed : 0 < state.workers.length) (hRoom : 0 < terms.capacity)
    (h : state.move? terms (state.nextMove elapsed) = none) : state.isFinished = true := by
  unfold nextMove at h
  split at h
  · next hResults => simp [move?, collect?, hResults] at h
  · next item work index hResults hWork hIndex =>
      obtain ⟨hi, hIdle, -⟩ := List.findIdx?_eq_some_iff_getElem.mp hIndex
      have hHeld : state.workers[index].isBusy = false := by simpa using hIdle
      simp [move?, take?, hWork, hi, hHeld] at h
  · next item pending hResults hWork hPending =>
      simp [move?, submit?, hPending, hWork, hRoom] at h
  · next hResults hTake hSubmit =>
      cases hBusy : state.workers.findIdx? Worker.isBusy with
      | some index =>
          obtain ⟨hi, hHolds, -⟩ := List.findIdx?_eq_some_iff_getElem.mp hBusy
          obtain ⟨outcome, hHeld⟩ := Option.isSome_iff_exists.mp hHolds
          simp [move?, deliver?, hBusy, hi, hHeld, hResults, hRoom] at h
      | none =>
          have hIdle := List.findIdx?_eq_none_iff.mp hBusy
          obtain ⟨worker, rest, hWorkers⟩ := List.exists_cons_of_length_pos hStaffed
          have hFirst : state.workers.findIdx? (fun w => !w.isBusy) = some 0 := by
            simp [hWorkers, List.findIdx?_cons, hIdle worker (by simp [hWorkers])]
          have hWork : state.work = [] := by
            cases hw : state.work with
            | nil => rfl
            | cons item tail => exact (hTake item tail 0 hw hFirst).elim
          have hPending : state.pending = [] := by
            cases hp : state.pending with
            | nil => rfl
            | cons item tail => exact (hSubmit item tail hWork hp).elim
          simpa [isFinished, hResults, hWork, hPending] using hIdle

/-- The schedule is one sequence of moves among all, and it is carried on to the end. -/
theorem exists_follow?_settle (terms : Terms) (elapsed : Nat → Duration) (state : State) :
    ∃ moves, state.follow? terms moves = some (state.settle terms elapsed) ∧
      (state.settle terms elapsed).move? terms ((state.settle terms elapsed).nextMove elapsed) =
        none := by
  fun_induction settle terms elapsed state with
  | case1 state next hMove ih =>
      obtain ⟨moves, hMoves, hEnd⟩ := ih
      refine ⟨state.nextMove elapsed :: moves, ?_, hEnd⟩
      simpa [follow?, hMove] using hMoves
  | case2 state hMove => exact ⟨[], rfl, hMove⟩

end State

/-- What a run of a pool may return: the workers build their parsers, and then moves are made in any
order until none is possible. -/
inductive Returns (pool : Pool) (entries : List RawEntry) (processors : Nat) :
    Except SetupError (Report × Pool) → Prop where
  | refused {fault : SetupError} (terms : pool.terms = .error fault) :
      Returns pool entries processors (.error fault)
  | completed {terms : Terms} {moves : List Move} {state : State} (terms_eq : pool.terms = .ok terms)
      (follow : (State.initial entries (pool.settings.workerCount processors)).follow? terms moves =
        some state)
      (stuck : ∀ move, state.move? terms move = none) :
      Returns pool entries processors (.ok (state.report, pool.absorb state.report))

theorem workerCount_pos (settings : Settings) (processors : Nat) :
    0 < settings.workerCount processors := by
  unfold Settings.workerCount
  split <;> omega

theorem capacity_pos (settings : Settings) : 0 < settings.capacity := by
  unfold Settings.capacity
  omega

/-- The terms of a pool are settled by its repository. -/
theorem terms_eq (pool : Pool) :
    pool.terms = (Repository.build pool.registry pool.config).map fun repository =>
      { parse := repository.parse, capacity := pool.settings.capacity } := by
  unfold terms
  cases Repository.build pool.registry pool.config <;> rfl

theorem capacity_pos_of_terms {pool : Pool} {terms : Terms} (h : pool.terms = .ok terms) :
    0 < terms.capacity := by
  rw [terms_eq] at h
  cases hRepository : Repository.build pool.registry pool.config with
  | error fault =>
      rw [hRepository] at h
      cases h
  | ok repository =>
      rw [hRepository] at h
      cases h
      exact capacity_pos pool.settings

/-- A pool that could be built has a repository, and so terms for its runs. -/
theorem terms_of_build {registry : Registry} {config : RepositoryConfig} {settings : Settings}
    {pool : Pool} (h : build registry config settings = .ok pool) :
    ∃ repository, Repository.build registry config = .ok repository ∧
      pool.terms = .ok { parse := repository.parse, capacity := pool.settings.capacity } := by
  unfold build at h
  cases hRepository : Repository.build registry config with
  | error fault =>
      rw [hRepository] at h
      cases h
  | ok repository =>
      rw [hRepository] at h
      cases h
      refine ⟨repository, rfl, ?_⟩
      rw [terms_eq, hRepository]
      rfl

/-- Whatever a run returns, it is the report of parsing the entries one after another. -/
theorem Returns.sequential {pool : Pool} {entries : List RawEntry} {processors : Nat}
    {result : Except SetupError (Report × Pool)} (h : pool.Returns entries processors result)
    {terms : Terms} (hTerms : pool.terms = .ok terms) :
    ∃ report, result = .ok (report, pool.absorb report) ∧
      report.untimed = (Report.sequential terms.parse entries).untimed := by
  cases h with
  | refused hRefused =>
      rw [hTerms] at hRefused
      cases hRefused
  | completed hOk hFollow hStuck =>
      obtain rfl := Except.ok.inj (hTerms.symm.trans hOk)
      have inv := (State.accounted_initial terms.parse entries _
        (workerCount_pos pool.settings processors)).follow hFollow
      have hFinished := State.isFinished_of_stuck inv.staffed (capacity_pos_of_terms hTerms) hStuck
      exact ⟨_, rfl, inv.untimed_report hFinished⟩

/-- The schedule that pools follow gives one of the results that a run may return. -/
theorem returns_run (pool : Pool) (entries : List RawEntry) (processors : Nat)
    (elapsed : Nat → Duration) :
    pool.Returns entries processors (pool.run entries processors elapsed) := by
  cases hTerms : pool.terms with
  | error fault =>
      have hRun : pool.run entries processors elapsed = .error fault := by
        simp only [run, process, hTerms]
        rfl
      rw [hRun]
      exact .refused hTerms
  | ok terms =>
      obtain ⟨moves, hMoves, hEnd⟩ := State.exists_follow?_settle terms elapsed
        (State.initial entries (pool.settings.workerCount processors))
      have inv := (State.accounted_initial terms.parse entries _
        (workerCount_pos pool.settings processors)).follow hMoves
      have hFinished := State.isFinished_of_nextMove inv.staffed (capacity_pos_of_terms hTerms) hEnd
      have hReturns := Returns.completed hTerms hMoves (State.stuck_of_isFinished hFinished)
      have hRun : pool.run entries processors elapsed =
          let report := (State.settle terms elapsed
            (State.initial entries (pool.settings.workerCount processors))).report
          .ok (report, pool.absorb report) := by
        simp only [run, process, hTerms]
        rfl
      rw [hRun]
      exact hReturns

/-- A batch is parsed like the entries of a run. -/
theorem untimed_processBatch {pool : Pool} {terms : Terms} (hTerms : pool.terms = .ok terms)
    (entries : List RawEntry) (elapsed : Nat → Duration) :
    ∃ report, pool.processBatch entries elapsed = .ok report ∧
      report.untimed = (Report.sequential terms.parse entries).untimed := by
  let outcomes : List (Numbered Outcome) := entries.mapIdx fun i entry =>
    ⟨i, (terms.parse entry).timed (elapsed i)⟩
  let samples := outcomes.map fun o => (o.value, elapsed o.sequence)
  refine ⟨⟨outcomes, .ofSamples samples⟩, ?_, ?_⟩
  · have hStatistics : Statistics.ofSamples samples =
        outcomes.foldl (fun all o => all.record o.value (elapsed o.sequence)) {} := by
      simp only [samples, Statistics.ofSamples, Statistics.recordAll, List.foldl_map]
    rw [hStatistics]
    simp only [processBatch, hTerms]
    rfl
  · have hOutcomes : outcomes.map (Numbered.map Outcome.untimed) =
        (Report.sequential terms.parse entries).untimed.outcomes := by
      apply List.ext_getElem?
      intro i
      simp [outcomes, Report.untimed, Report.sequential, Numbered.map, Function.comp_def]
    have hSamples : samples.map (fun sample => sample.1.untimed) =
        (entries.map fun entry => (terms.parse entry, (0 : Duration))).map
          fun sample => sample.1.untimed := by
      apply List.ext_getElem?
      intro i
      simp [samples, outcomes, Function.comp_def]
    have hCounts : (Statistics.ofSamples samples).untimed =
        (Report.sequential terms.parse entries).statistics.untimed := by
      rw [State.statistics_sequential]
      exact Statistics.untimed_ofSamples_perm (.of_eq hSamples)
    simp only [Report.untimed] at hOutcomes ⊢
    rw [hOutcomes, hCounts]

/-- A pool that could be built never fails. Whatever the schedule, a run reports what the repository
makes of the entries one after another, in their order, and so do the run of the pool's own schedule and
a batch. -/
theorem reports_sequential_on_every_schedule {registry : Registry} {config : RepositoryConfig}
    {settings : Settings} {pool : Pool} (hPool : build registry config settings = .ok pool)
    (entries : List RawEntry) :
    ∃ repository, Repository.build registry config = .ok repository ∧
      (∀ processors result, pool.Returns entries processors result →
        ∃ report, result = .ok (report, pool.absorb report) ∧
          report.untimed = (Report.sequential repository.parse entries).untimed) ∧
      (∀ processors elapsed, pool.Returns entries processors (pool.run entries processors elapsed)) ∧
      (∀ elapsed, ∃ report, pool.runBatch entries elapsed = .ok (report, pool.absorb report) ∧
        report.untimed = (Report.sequential repository.parse entries).untimed) := by
  obtain ⟨repository, hRepository, hTerms⟩ := terms_of_build hPool
  refine ⟨repository, hRepository, ?_, ?_, ?_⟩
  · intro processors result hReturns
    exact hReturns.sequential hTerms
  · intro processors elapsed
    exact returns_run pool entries processors elapsed
  · intro elapsed
    obtain ⟨report, hReport, hSequential⟩ := untimed_processBatch hTerms entries elapsed
    refine ⟨report, ?_, hSequential⟩
    simp only [runBatch, hReport]
    rfl

/-- A pool of two workers, with room for one item in each queue. They read a status from the second
token of messages. -/
def statusPool : Pool where
  settings := { workers := 2, queueCapacity := 0 }
  registry := {}
  config := (RepositoryConfig.named "web").withParser {
    name := "access"
    strategy := "delimited"
    properties := Dictionary.insert ∅ Property.delimiter "|"
    fields := [⟨"status", .integer, Dictionary.insert ∅ Property.position "2"⟩] }

/-- Two entries for that pool; the message of the second is too short. -/
def statusEntries : List RawEntry :=
  ["GET|200", "GET"].map fun message =>
    { timestamp := "2024-01-15T10:30:00.000Z", source := "proxy", host := "web-1", severity := "info",
      message }

/-- What a report says about the fields and the failures of entries by their numbers, and how many entries it
counts in all, as stored, and how many failures. -/
def Report.shown (report : Report) :
    List (Nat × Option (List (String × FieldValue) × List FieldFailure)) × Nat × Nat × Nat :=
  (report.outcomes.map fun outcome => (outcome.sequence, outcome.value.toOption.map fun result =>
      (result.entry.fields.entries, result.failures)),
    report.statistics.total, report.statistics.stored, report.statistics.toleratedFailures)

theorem Report.shown_untimed (report : Report) : report.untimed.shown = report.shown := by
  have hOutcome (outcome : Numbered Outcome) :
      (outcome.map Outcome.untimed).value.toOption.map (fun result =>
        (result.entry.fields.entries, result.failures)) =
      outcome.value.toOption.map fun result => (result.entry.fields.entries, result.failures) := by
    obtain ⟨sequence, reason | result⟩ := outcome <;> rfl
  simp only [shown, untimed, List.map_map, Function.comp_def, hOutcome]
  rfl

theorem reports_sequential_two_workers :
    build {} statusPool.config statusPool.settings = .ok statusPool ∧
      ∃ repository, Repository.build {} statusPool.config = .ok repository ∧
        (∀ result, statusPool.Returns statusEntries 1 result →
          ∃ report, result = .ok (report, statusPool.absorb report) ∧
            report.untimed = (Report.sequential repository.parse statusEntries).untimed ∧
            report.shown =
              ([(0, some ([("status", .integer 200)], [])),
                (1, some ([], [⟨"status", .positionOutOfRange 2 1⟩]))], 2, 2, 1)) ∧
        ∃ report, statusPool.runBatch statusEntries = .ok (report, statusPool.absorb report) ∧
          report.untimed = (Report.sequential repository.parse statusEntries).untimed := by
  have hPool : build {} statusPool.config statusPool.settings = .ok statusPool := by rfl
  obtain ⟨repository, hRepository, hRuns, -, hBatch⟩ :=
    reports_sequential_on_every_schedule hPool statusEntries
  have hShown : (Report.sequential repository.parse statusEntries).shown =
      ([(0, some ([("status", .integer 200)], [])),
        (1, some ([], [⟨"status", .positionOutOfRange 2 1⟩]))], 2, 2, 1) := by
    cases hRepository
    rfl
  refine ⟨hPool, repository, hRepository, fun result hReturns => ?_, hBatch _⟩
  obtain ⟨report, hResult, hReport⟩ := hRuns 1 result hReturns
  refine ⟨report, hResult, hReport, ?_⟩
  rw [← Report.shown_untimed, hReport, Report.shown_untimed, hShown]

end LogIngest.Pool

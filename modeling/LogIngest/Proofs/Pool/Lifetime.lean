import LogIngest.Proofs.Pool.Runs
import LogIngest.Proofs.Statistics.Splitting

/-!
A pool over its lifetime. Runs and batches may be under way at the same time, with their moves in any
order. Each adds its statistics to those of the pool when it returns, and the pool may be told to forget
them at any point in between. Main statement: what the pool has counted is what the calls have returned
that came back since it was last told to forget, every entry of each of them once.
-/

namespace LogIngest

namespace Statistics

/-- The statistics of some outcomes, recorded one after another. The skipped ones count as having taken no
time. -/
def ofOutcomes (outcomes : List Outcome) : Statistics :=
  .ofSamples (outcomes.map fun outcome => (outcome, 0))

/-- Counts do not depend on the times of outcomes. -/
theorem untimed_ofOutcomes_map_untimed (outcomes : List Outcome) :
    (ofOutcomes (outcomes.map Outcome.untimed)).untimed = (ofOutcomes outcomes).untimed := by
  apply untimed_ofSamples_perm
  apply List.Perm.of_eq
  simp [Function.comp_def]

/-- Every outcome counts once. -/
theorem total_ofOutcomes (outcomes : List Outcome) : (ofOutcomes outcomes).total = outcomes.length := by
  simpa [ofOutcomes] using (summarises_ofSamples (outcomes.map fun outcome => (outcome, 0))).total

/-- Merged counts are those of the outcomes on both sides. -/
theorem untimed_merge_ofOutcomes {ours theirs : Statistics} {first second : List Outcome}
    (hOurs : ours.untimed = (ofOutcomes first).untimed)
    (hTheirs : theirs.untimed = (ofOutcomes second).untimed) :
    (ours.merge theirs).untimed = (ofOutcomes (first ++ second)).untimed := by
  calc (ours.merge theirs).untimed
      = (ours.untimed.merge theirs.untimed).untimed := rfl
    _ = ((ofOutcomes first).untimed.merge (ofOutcomes second).untimed).untimed := by
      rw [hOurs, hTheirs]
    _ = ((ofOutcomes first).merge (ofOutcomes second)).untimed := rfl
    _ = (ofOutcomes (first ++ second)).untimed := by
      simp only [ofOutcomes, merge_ofSamples, List.map_append]

end Statistics

namespace Pool

/-- A call that has been made and has not returned yet. -/
inductive Call where
  | run (entries : List RawEntry) (state : State)
  /-- A batch, the entries of which take given times. -/
  | batch (entries : List RawEntry) (elapsed : Nat → Duration)

namespace Call

def entries : Call → List RawEntry
  | run entries _ => entries
  | batch entries _ => entries

/-- The report with which a call comes to its end. A run has none as long as there is something to do. -/
def report? (pool : Pool) : Call → Option Report
  | run _ state => if state.isFinished then some state.report else none
  | batch entries elapsed => (pool.processBatch entries elapsed).toOption

/-- What a call accounts for as long as it is under way. -/
def Accounted (parse : RawEntry → Outcome) : Call → Prop
  | run entries state => state.Accounted parse entries
  | batch _ _ => True

end Call

/-- A call that has come back to its caller. -/
structure Returned where
  entries : List RawEntry
  report : Report

namespace Returned

def outcomes (call : Returned) : List Outcome :=
  call.report.outcomes.map Numbered.value

/-- Whether a call has come back with what its entries are one after another, each of them once. -/
def Sequential (parse : RawEntry → Outcome) (call : Returned) : Prop :=
  call.report.untimed = (Report.sequential parse call.entries).untimed

end Returned

/-- What shows of a pool from outside. -/
inductive Event where
  | returned (call : Returned)
  | forgotten

/-- The calls that have returned since the statistics were last forgotten, oldest first, from a history
that starts with the latest event. -/
def countedCalls : List Event → List Returned
  | [] => []
  | .forgotten :: _ => []
  | .returned call :: earlier => countedCalls earlier ++ [call]

/-- A pool in use. -/
structure Session where
  pool : Pool
  /-- The calls under way. -/
  calls : List Call := []
  /-- What has happened so far, latest first. -/
  history : List Event := []

/-- What can happen next to a pool in use. -/
inductive Act where
  /-- A run is called, on a machine with so many processors. -/
  | run (entries : List RawEntry) (processors : Nat)
  | batch (entries : List RawEntry) (elapsed : Nat → Duration)
  /-- One of the runs under way makes a move. -/
  | move (call : Nat) (move : Move)
  /-- One of the calls under way adds its statistics to those of the pool and returns. -/
  | finish (call : Nat)
  | reset

namespace Session

/-- The calls whose entries the pool has to have counted. -/
def counted (session : Session) : List Returned :=
  countedCalls session.history

/-- The session with one more call under way. -/
def withCall (session : Session) (call : Call) : Session :=
  { session with calls := session.calls ++ [call] }

/-- The session after a call has added its statistics to those of the pool and has returned. -/
def afterReturn (session : Session) (call : Returned) : Session :=
  { session with
    pool := session.pool.absorb call.report
    history := .returned call :: session.history }

/-- A call that returns is counted behind the others. -/
@[simp] theorem counted_afterReturn (session : Session) (call : Returned) :
    (session.afterReturn call).counted = session.counted ++ [call] := rfl

/-- The session after a move of one of its runs. -/
def move? (session : Session) (index : Nat) (move : Move) : Option Session :=
  match session.calls[index]?, session.pool.terms with
  | some (.run entries state), .ok terms =>
    (state.move? terms move).map fun next =>
      { session with calls := session.calls.set index (.run entries next) }
  | _, _ => none

/-- The session after one of its calls has returned. -/
def finish? (session : Session) (index : Nat) : Option Session :=
  match session.calls[index]? with
  | some call =>
    (call.report? session.pool).map fun report =>
      { session with calls := session.calls.eraseIdx index }.afterReturn ⟨call.entries, report⟩
  | none => none

/-- The session after an act, if it is possible. -/
def act? (session : Session) : Act → Option Session
  | .run entries processors =>
    let workers := session.pool.settings.workerCount processors
    some (session.withCall (.run entries (.initial entries workers)))
  | .batch entries elapsed => some (session.withCall (.batch entries elapsed))
  | .move index move => session.move? index move
  | .finish index => session.finish? index
  | .reset =>
    some { session with pool := session.pool.reset, history := .forgotten :: session.history }

/-- The session after a sequence of acts, if each of them is possible. -/
def follow? (session : Session) (acts : List Act) : Option Session :=
  acts.foldlM act? session

/-- The invariant of a pool in use. -/
structure Accounted (terms : Terms) (session : Session) : Prop where
  terms_eq : session.pool.terms = .ok terms
  calls : ∀ call ∈ session.calls, call.Accounted terms.parse
  counted : ∀ call ∈ session.counted, call.Sequential terms.parse
  /-- The pool has recorded what the counted calls have returned, and nothing else. -/
  recorded : session.pool.statistics.untimed =
    (Statistics.ofOutcomes (session.counted.flatMap Returned.outcomes)).untimed

variable {terms : Terms} {session next : Session} {index : Nat}

/-- A move of a call changes nothing but that call. -/
theorem move?_eq_some_iff {move : Move} (hTerms : session.pool.terms = .ok terms) :
    session.move? index move = some next ↔
      ∃ entries state after, session.calls[index]? = some (.run entries state) ∧
        state.move? terms move = some after ∧
        next = { session with calls := session.calls.set index (.run entries after) } := by
  unfold move?
  split
  · next entries state terms' hCall hTerms' =>
      obtain rfl := Except.ok.inj (hTerms.symm.trans hTerms')
      rw [Option.map_eq_some_iff]
      constructor
      · rintro ⟨after, hMove, rfl⟩
        exact ⟨entries, state, after, hCall, hMove, rfl⟩
      · rintro ⟨_, _, after, hSame, hMove, rfl⟩
        obtain ⟨rfl, rfl⟩ := Call.run.inj (Option.some.inj (hCall.symm.trans hSame))
        exact ⟨after, hMove, rfl⟩
  · next hNone =>
      constructor
      · intro h
        cases h
      · rintro ⟨entries, state, _, hCall, -, -⟩
        exact (hNone entries state terms hCall hTerms).elim

/-- A call that returns adds its report to the pool. -/
theorem finish?_eq_some_iff :
    session.finish? index = some next ↔
      ∃ call report, session.calls[index]? = some call ∧ call.report? session.pool = some report ∧
        next = { session with calls := session.calls.eraseIdx index }.afterReturn
          ⟨call.entries, report⟩ := by
  unfold finish?
  cases hCall : session.calls[index]? with
  | none => simp
  | some call => simp [eq_comm]

end Session

/-- A pool that was just built has counted nothing. -/
theorem statistics_of_build {registry : Registry} {config : RepositoryConfig} {settings : Settings}
    {pool : Pool} (h : build registry config settings = .ok pool) : pool.statistics = {} := by
  unfold build at h
  cases hRepository : Repository.build registry config with
  | error fault =>
      rw [hRepository] at h
      cases h
  | ok repository =>
      rw [hRepository] at h
      cases h
      rfl

/-- A call returns what its entries are one after another. -/
theorem Call.sequential_of_report? {call : Call} {pool : Pool} {terms : Terms} {report : Report}
    (hTerms : pool.terms = .ok terms) (inv : call.Accounted terms.parse)
    (h : call.report? pool = some report) :
    (⟨call.entries, report⟩ : Returned).Sequential terms.parse := by
  cases call with
  | run entries state =>
      simp only [report?, Option.ite_none_right_eq_some, Option.some.injEq] at h
      obtain ⟨hFinished, rfl⟩ := h
      exact State.Accounted.untimed_report inv hFinished
  | batch entries elapsed =>
      obtain ⟨batch, hBatch, hSequential⟩ := untimed_processBatch hTerms entries elapsed
      obtain rfl : batch = report := by simpa [report?, hBatch, Except.toOption] using h
      exact hSequential

namespace Returned

variable {parse : RawEntry → Outcome} {call : Returned}

/-- A call has the outcomes of its entries, but for times. -/
theorem Sequential.map_untimed_outcomes (h : call.Sequential parse) :
    call.outcomes.map Outcome.untimed = call.entries.map fun entry => (parse entry).untimed := by
  have hOutcomes := congrArg (fun report : Report => report.outcomes.map Numbered.value) h
  have hInOrder : (Report.sequential parse call.entries).outcomes.map
      (fun numbered => numbered.value.untimed) =
        call.entries.map fun entry => (parse entry).untimed := by
    apply List.ext_getElem?
    intro i
    simp [Report.sequential, Function.comp_def]
  simpa [Report.untimed, outcomes, Numbered.map, Function.comp_def, ← hInOrder] using hOutcomes

/-- A call has one outcome for each of its entries. -/
theorem Sequential.length_outcomes (h : call.Sequential parse) :
    call.outcomes.length = call.entries.length := by
  simpa using congrArg List.length h.map_untimed_outcomes

/-- The counts that a call returns are those of the outcomes that it returns. -/
theorem Sequential.untimed_statistics (h : call.Sequential parse) :
    call.report.statistics.untimed = (Statistics.ofOutcomes call.outcomes).untimed := by
  calc call.report.statistics.untimed
      = (Report.sequential parse call.entries).statistics.untimed := congrArg Report.statistics h
    _ = (Statistics.ofOutcomes (call.entries.map parse)).untimed := by
      rw [State.statistics_sequential, Statistics.ofOutcomes, List.map_map]
      rfl
    _ = (Statistics.ofOutcomes ((call.entries.map parse).map Outcome.untimed)).untimed :=
      (Statistics.untimed_ofOutcomes_map_untimed _).symm
    _ = (Statistics.ofOutcomes (call.outcomes.map Outcome.untimed)).untimed := by
      rw [h.map_untimed_outcomes, List.map_map]
      rfl
    _ = (Statistics.ofOutcomes call.outcomes).untimed := Statistics.untimed_ofOutcomes_map_untimed _

end Returned

namespace Session

variable {terms : Terms} {session next : Session} {index : Nat}

/-- At the start nothing has returned and nothing is counted. -/
theorem accounted_opened {pool : Pool} (hTerms : pool.terms = .ok terms)
    (hFresh : pool.statistics = {}) : Accounted terms { pool } := by
  refine ⟨hTerms, nofun, nofun, ?_⟩
  rw [hFresh]
  rfl

/-- A session stays accounted for when another call comes to be under way. -/
theorem Accounted.withCall (inv : session.Accounted terms) {call : Call}
    (hCall : call.Accounted terms.parse) : (session.withCall call).Accounted terms := by
  refine ⟨inv.terms_eq, ?_, inv.counted, inv.recorded⟩
  intro other hOther
  rcases List.mem_append.mp hOther with hOld | hNew
  · exact inv.calls other hOld
  · rw [List.mem_singleton.mp hNew]
    exact hCall

/-- Moves of calls under way change neither. -/
theorem Accounted.move {move : Move} (inv : session.Accounted terms)
    (h : session.move? index move = some next) : next.Accounted terms := by
  obtain ⟨entries, state, after, hCall, hMove, rfl⟩ := (move?_eq_some_iff inv.terms_eq).mp h
  refine ⟨inv.terms_eq, ?_, inv.counted, inv.recorded⟩
  intro other hOther
  rcases List.mem_or_eq_of_mem_set hOther with hOld | rfl
  · exact inv.calls other hOld
  · have hState : state.Accounted terms.parse entries := inv.calls _ (List.mem_of_getElem? hCall)
    exact hState.move hMove

/-- A call that returns is counted with its outcomes. -/
theorem Accounted.finish (inv : session.Accounted terms) (h : session.finish? index = some next) :
    next.Accounted terms := by
  obtain ⟨call, report, hCall, hReport, rfl⟩ := finish?_eq_some_iff.mp h
  have hSequential : (⟨call.entries, report⟩ : Returned).Sequential terms.parse :=
    Call.sequential_of_report? inv.terms_eq (inv.calls call (List.mem_of_getElem? hCall)) hReport
  refine ⟨inv.terms_eq, ?_, ?_, ?_⟩
  · intro other hOther
    exact inv.calls other (List.mem_of_mem_eraseIdx hOther)
  · intro other hOther
    rcases List.mem_append.mp hOther with hOld | hNew
    · exact inv.counted other hOld
    · rw [List.mem_singleton.mp hNew]
      exact hSequential
  · have hMerged := Statistics.untimed_merge_ofOutcomes inv.recorded hSequential.untimed_statistics
    rw [counted_afterReturn, List.flatMap_append, List.flatMap_singleton]
    exact hMerged

/-- Forgetting forgets both. -/
theorem Accounted.reset (inv : session.Accounted terms) :
    Accounted terms
      { session with pool := session.pool.reset, history := .forgotten :: session.history } :=
  ⟨inv.terms_eq, inv.calls, nofun, rfl⟩

/-- Every act keeps the invariant. -/
theorem Accounted.act {act : Act} (inv : session.Accounted terms)
    (h : session.act? act = some next) : next.Accounted terms := by
  cases act with
  | run entries processors =>
      obtain rfl := Option.some.inj h
      apply inv.withCall
      exact State.accounted_initial terms.parse entries _ (workerCount_pos _ processors)
  | batch entries elapsed =>
      obtain rfl := Option.some.inj h
      apply inv.withCall
      trivial
  | move => exact inv.move h
  | finish => exact inv.finish h
  | reset =>
      obtain rfl := Option.some.inj h
      exact inv.reset

/-- Every sequence of acts keeps the invariant. -/
theorem Accounted.follow {acts : List Act} (inv : session.Accounted terms)
    (h : session.follow? acts = some next) : next.Accounted terms := by
  induction acts generalizing session with
  | nil =>
      obtain rfl : session = next := by simpa [follow?] using h
      exact inv
  | cons first rest ih =>
      simp only [follow?, List.foldlM_cons, Option.bind_eq_bind, Option.bind_eq_some_iff] at h
      obtain ⟨middle, hFirst, hRest⟩ := h
      exact ih (inv.act hFirst) hRest

/-- A run makes its moves next to the calls that are under way already. -/
theorem follow?_moves (hTerms : session.pool.terms = .ok terms) (entries : List RawEntry)
    {state after : State} {moves : List Move} (h : state.follow? terms moves = some after) :
    (session.withCall (.run entries state)).follow? (moves.map (.move session.calls.length)) =
      some (session.withCall (.run entries after)) := by
  induction moves generalizing state with
  | nil =>
      obtain rfl : state = after := by simpa [State.follow?] using h
      rfl
  | cons first rest ih =>
      simp only [State.follow?, List.foldlM_cons, Option.bind_eq_bind, Option.bind_eq_some_iff] at h
      obtain ⟨middle, hFirst, hRest⟩ := h
      have hCalled : (session.withCall (.run entries state)).pool.terms = .ok terms := hTerms
      have hMove : (session.withCall (.run entries state)).act? (.move session.calls.length first) =
          some (session.withCall (.run entries middle)) := by
        apply (move?_eq_some_iff hCalled).mpr
        exact ⟨entries, state, middle, by simp [withCall], hFirst, by simp [withCall]⟩
      rw [List.map_cons, follow?, List.foldlM_cons, hMove]
      exact ih hRest

/-- A call that has nothing more to do can return at once. -/
theorem act?_finish {call : Call} {report : Report} (h : call.report? session.pool = some report) :
    (session.withCall call).act? (.finish session.calls.length) =
      some (session.afterReturn ⟨call.entries, report⟩) := by
  apply finish?_eq_some_iff.mpr
  exact ⟨call, report, by simp [withCall], h,
    by simp [withCall, List.eraseIdx_append_of_length_le]⟩

/-- A run that overlaps with no other call, under any schedule. -/
theorem exists_follow?_of_returns (hTerms : session.pool.terms = .ok terms) {entries : List RawEntry}
    {processors : Nat} {result : Except SetupError (Report × Pool)}
    (h : session.pool.Returns entries processors result) :
    ∃ report, result = .ok (report, session.pool.absorb report) ∧
      ∃ acts, session.follow? acts = some (session.afterReturn ⟨entries, report⟩) := by
  cases h with
  | refused hRefused =>
      rw [hTerms] at hRefused
      cases hRefused
  | @completed terms' moves state hOk hFollow hStuck =>
      obtain rfl := Except.ok.inj (hTerms.symm.trans hOk)
      have inv := (State.accounted_initial terms.parse entries _
        (workerCount_pos session.pool.settings processors)).follow hFollow
      have hFinished := State.isFinished_of_stuck inv.staffed (capacity_pos_of_terms hTerms) hStuck
      have hReport : (Call.run entries state).report? session.pool = some state.report := by
        simp [Call.report?, hFinished]
      refine ⟨state.report, rfl, .run entries processors ::
        (moves.map (.move session.calls.length) ++ [.finish session.calls.length]), ?_⟩
      calc session.follow? _
          = ((session.withCall (.run entries
              (.initial entries (session.pool.settings.workerCount processors)))).follow?
              (moves.map (.move session.calls.length))).bind
                (follow? · [.finish session.calls.length]) := by
            simp [follow?, act?]
        _ = (session.withCall (.run entries state)).act? (.finish session.calls.length) := by
            rw [follow?_moves hTerms entries hFollow]
            simp [follow?]
        _ = some (session.afterReturn ⟨entries, state.report⟩) := act?_finish hReport

/-- A batch that overlaps with no other call. -/
theorem exists_follow?_runBatch (hTerms : session.pool.terms = .ok terms) (entries : List RawEntry)
    (elapsed : Nat → Duration) :
    ∃ report, session.pool.runBatch entries elapsed = .ok (report, session.pool.absorb report) ∧
      ∃ acts, session.follow? acts = some (session.afterReturn ⟨entries, report⟩) := by
  obtain ⟨report, hBatch, -⟩ := untimed_processBatch hTerms entries elapsed
  have hReport : (Call.batch entries elapsed).report? session.pool = some report := by
    simp [Call.report?, hBatch, Except.toOption]
  refine ⟨report, ?_, [.batch entries elapsed, .finish session.calls.length], ?_⟩
  · simp only [runBatch, hBatch]
    rfl
  · simpa [follow?, act?, Call.entries] using act?_finish hReport

end Session

/-- However the calls of a pool and the commands to forget follow one another and overlap, the pool has
counted the outcomes that calls have returned since it was last told to forget, as if they had been recorded
one after another, and each of those calls has returned each of its entries once. Runs and batches that
overlap with nothing are among these calls, and so is forgetting. -/
theorem totals_since_reset {registry : Registry} {config : RepositoryConfig} {settings : Settings}
    {pool : Pool} (hPool : build registry config settings = .ok pool) :
    ∃ repository, Repository.build registry config = .ok repository ∧
      ∀ acts session, Session.follow? { pool } acts = some session →
        session.pool.statistics.untimed =
          (Statistics.ofOutcomes (session.counted.flatMap Returned.outcomes)).untimed ∧
        session.pool.statistics.total = (session.counted.map fun call => call.entries.length).sum ∧
        (∀ call ∈ session.counted, call.Sequential repository.parse) ∧
        (∀ entries processors elapsed, ∃ report,
          session.pool.run entries processors elapsed = .ok (report, session.pool.absorb report) ∧
          ∃ more, session.follow? more = some (session.afterReturn ⟨entries, report⟩)) ∧
        (∀ entries elapsed, ∃ report,
          session.pool.runBatch entries elapsed = .ok (report, session.pool.absorb report) ∧
          ∃ more, session.follow? more = some (session.afterReturn ⟨entries, report⟩)) ∧
        ∃ more after, session.follow? more = some after ∧ after.pool = session.pool.reset ∧
          after.counted = [] := by
  obtain ⟨repository, hRepository, hTerms⟩ := terms_of_build hPool
  refine ⟨repository, hRepository, ?_⟩
  intro acts session hFollow
  have hFresh : pool.statistics = {} := statistics_of_build hPool
  have inv := (Session.accounted_opened hTerms hFresh).follow hFollow
  refine ⟨inv.recorded, ?_, inv.counted, ?_, ?_, ?_⟩
  · calc session.pool.statistics.total
        = (Statistics.ofOutcomes (session.counted.flatMap Returned.outcomes)).total := by
          simpa [Statistics.untimed] using congrArg Statistics.total inv.recorded
      _ = (session.counted.map fun call => call.outcomes.length).sum := by
          rw [Statistics.total_ofOutcomes, List.length_flatMap]
      _ = (session.counted.map fun call => call.entries.length).sum := by
          congr 1
          apply List.map_congr_left
          intro call hCall
          exact (inv.counted call hCall).length_outcomes
  · intro entries processors elapsed
    exact Session.exists_follow?_of_returns inv.terms_eq (returns_run _ entries processors elapsed)
  · intro entries elapsed
    exact Session.exists_follow?_runBatch inv.terms_eq entries elapsed
  · exact ⟨[.reset], _, rfl, rfl, rfl⟩

/-- Two runs and a batch of the two entries, which overlap. The statistics are forgotten when the first run
has returned, while the others are still under way. -/
def overlappingActs : List Act :=
  let carry (call : Nat) : List Act :=
    [Move.submit, .take 1 (.ofMicros 3), .submit, .deliver 1, .take 0 (.ofMicros 5), .collect,
      .deliver 0, .collect].map (.move call)
  [.run statusEntries 1, .batch statusEntries (fun _ => .ofMicros 7), .run statusEntries 4] ++
    carry 2 ++ carry 0 ++ [.finish 0, .reset, .finish 0, .finish 0]

theorem totals_since_reset_overlapping :
    build {} statusPool.config statusPool.settings = .ok statusPool ∧
      ∃ session, Session.follow? { pool := statusPool } overlappingActs = some session ∧
        session.counted.length = 2 ∧ session.pool.statistics.total = 4 ∧
        session.pool.statistics.untimed =
          (Statistics.ofOutcomes (session.counted.flatMap Returned.outcomes)).untimed := by
  have hPool : build {} statusPool.config statusPool.settings = .ok statusPool := by rfl
  obtain ⟨session, hFollow, hCounted⟩ :
      ∃ session, Session.follow? { pool := statusPool } overlappingActs = some session ∧
        session.counted.map (fun call => call.entries.length) = [2, 2] := ⟨_, rfl, rfl⟩
  obtain ⟨repository, -, hTotals⟩ := totals_since_reset hPool
  obtain ⟨hRecorded, hTotal, -⟩ := hTotals overlappingActs session hFollow
  refine ⟨hPool, session, hFollow, ?_, ?_, hRecorded⟩
  · simpa using congrArg List.length hCounted
  · rw [hTotal, hCounted]
    rfl

end Pool
end LogIngest

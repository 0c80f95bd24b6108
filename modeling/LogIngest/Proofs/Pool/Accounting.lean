import LogIngest.Pool.Basic
import LogIngest.Proofs.Statistics.Counts

/-!
What every state of a run accounts for. Each entry is in exactly one place: it waits, or the outcome that
its parser makes of it is held, queued or collected; and the workers have together recorded the outcomes
that there are. Main statement: whatever moves are made, and in whatever order, this stays so.
-/

namespace LogIngest.Pool

open scoped List

/-- Changes what is numbered and keeps the position. -/
def Numbered.map {α β : Type} (f : α → β) (numbered : Numbered α) : Numbered β :=
  ⟨numbered.sequence, f numbered.value⟩

namespace State

variable {terms : Terms} {state next : State} {index : Nat} {elapsed : Duration}

theorem submit?_eq_some_iff :
    state.submit? terms = some next ↔
      ∃ item pending, state.pending = item :: pending ∧ state.work.length < terms.capacity ∧
        next = { state with pending, work := state.work ++ [item] } := by
  unfold submit?
  split
  · next item pending hp =>
      simp only [hp, List.cons.injEq]
      constructor
      · intro h
        split at h
        · next hRoom => exact ⟨item, pending, ⟨rfl, rfl⟩, hRoom, (Option.some.inj h).symm⟩
        · cases h
      · rintro ⟨_, _, ⟨rfl, rfl⟩, hRoom, rfl⟩
        rw [if_pos hRoom]
  · next hp => simp [hp]

theorem take?_eq_some_iff :
    state.take? terms index elapsed = some next ↔
      ∃ worker item work, state.workers[index]? = some worker ∧ state.work = item :: work ∧
        worker.held = none ∧
        next = { state with
          work
          workers := state.workers.set index
            (worker.afterParsing ⟨item.sequence, (terms.parse item.value).timed elapsed⟩ elapsed) } := by
  unfold take?
  split
  · next worker item work hw hq =>
      constructor
      · intro h
        split at h
        · cases h
        · next hIdle =>
            have hHeld : worker.held = none := by simpa [Worker.isBusy] using hIdle
            exact ⟨worker, item, work, hw, hq, hHeld, (Option.some.inj h).symm⟩
      · rintro ⟨worker', item', work', hw', hq', hHeld, rfl⟩
        obtain rfl : worker = worker' := Option.some.inj (hw.symm.trans hw')
        obtain ⟨rfl, rfl⟩ := List.cons.inj (hq.symm.trans hq')
        simp [Worker.isBusy, hHeld]
  · next hNone =>
      constructor
      · intro h
        cases h
      · rintro ⟨worker, item, work, hw, hq, -, -⟩
        exact (hNone worker item work hw hq).elim

theorem deliver?_eq_some_iff :
    state.deliver? terms index = some next ↔
      ∃ worker outcome, state.workers[index]? = some worker ∧ worker.held = some outcome ∧
        state.results.length < terms.capacity ∧
        next = { state with
          results := state.results ++ [outcome]
          workers := state.workers.set index worker.afterDelivery } := by
  unfold deliver?
  cases hw : state.workers[index]? with
  | none => simp
  | some worker =>
      cases hHeld : worker.held with
      | none => simp [hHeld]
      | some outcome =>
          simp only [hHeld, Option.some.injEq]
          constructor
          · intro h
            split at h
            · next hRoom => exact ⟨worker, outcome, rfl, hHeld, hRoom, (Option.some.inj h).symm⟩
            · cases h
          · rintro ⟨worker', outcome', rfl, hHeld', hRoom, rfl⟩
            obtain rfl : outcome = outcome' := Option.some.inj (hHeld.symm.trans hHeld')
            rw [if_pos hRoom]

theorem collect?_eq_some_iff :
    state.collect? = some next ↔
      ∃ outcome results, state.results = outcome :: results ∧
        next = { state with results, collected := outcome :: state.collected } := by
  unfold collect?
  split
  · next outcome results hr =>
      simp only [hr, List.cons.injEq, Option.some.injEq]
      constructor
      · intro h
        exact ⟨outcome, results, ⟨rfl, rfl⟩, h.symm⟩
      · rintro ⟨_, _, ⟨rfl, rfl⟩, rfl⟩
        rfl
  · next hr => simp [hr]

/-- The entries that no worker has taken yet. -/
def waiting (state : State) : List (Numbered RawEntry) :=
  state.work ++ state.pending

/-- The outcomes that there are: in the hands of workers, in the result queue, and collected. -/
def parsed (state : State) : List (Numbered Outcome) :=
  state.workers.filterMap Worker.held ++ state.results ++ state.collected

/-- The statistics of all workers together. -/
def statistics (state : State) : Statistics :=
  (state.workers.map Worker.statistics).foldl Statistics.merge {}

/-- What the entries are going to become, or have become, wherever they are; times left out. -/
def account (parse : RawEntry → Outcome) (state : State) : List (Numbered Outcome) :=
  state.waiting.map (Numbered.map fun entry => (parse entry).untimed) ++
    state.parsed.map (Numbered.map Outcome.untimed)

/-- The outcomes of entries that are parsed one after another, times left out. -/
def due (parse : RawEntry → Outcome) (entries : List RawEntry) : List (Numbered Outcome) :=
  entries.mapIdx fun i entry => ⟨i, (parse entry).untimed⟩

/-- The invariant of a run over some entries. -/
structure Accounted (parse : RawEntry → Outcome) (entries : List RawEntry) (state : State) :
    Prop where
  /-- Every entry is in one place. -/
  placed : state.account parse ~ due parse entries
  /-- The workers have recorded every outcome that there is, and nothing else. -/
  recorded : ∃ samples, state.statistics = .ofSamples samples ∧
    samples.map Prod.fst ~ state.parsed.map Numbered.value
  /-- There is somebody to take work. -/
  staffed : 0 < state.workers.length

/-- What is held changes with the worker that is put in place of another. -/
theorem held_set {workers : List Worker} {worker : Worker} (h : workers[index]? = some worker)
    (other : Worker) :
    (workers.set index other).filterMap Worker.held ++ worker.held.toList ~
      workers.filterMap Worker.held ++ other.held.toList := by
  obtain ⟨hi, rfl⟩ := List.getElem?_eq_some_iff.mp h
  have hCons : ∀ (w : Worker) (rest : List Worker),
      (w :: rest).filterMap Worker.held = w.held.toList ++ rest.filterMap Worker.held := by
    intro w rest
    cases hw : w.held <;> simp [hw]
  have hSet := (List.set_perm_cons_eraseIdx hi other).filterMap Worker.held
  have hGet := (List.getElem_cons_eraseIdx_perm hi).filterMap Worker.held
  rw [hCons] at hSet hGet
  calc
    _ ~ other.held.toList ++ (workers.eraseIdx index).filterMap Worker.held ++
          workers[index].held.toList := hSet.append_right _
    _ ~ workers[index].held.toList ++ (other.held.toList ++
          (workers.eraseIdx index).filterMap Worker.held) := List.perm_append_comm
    _ ~ workers[index].held.toList ++ ((workers.eraseIdx index).filterMap Worker.held ++
          other.held.toList) := List.perm_append_comm.append_left _
    _ ~ _ := by
      rw [← List.append_assoc]
      exact hGet.append_right _

variable {entries : List RawEntry}

theorem accounted_initial (parse : RawEntry → Outcome) (entries : List RawEntry) (workers : Nat)
    (h : 0 < workers) : (initial entries workers).Accounted parse entries := by
  have hParsed : (initial entries workers).parsed = [] := by simp [parsed, initial]
  have hWaiting : (initial entries workers).waiting = entries.mapIdx Numbered.mk := rfl
  have hStatistics : ∀ n : Nat,
      ((List.replicate n ({} : Worker)).map Worker.statistics).foldl Statistics.merge {} = {} := by
    intro n
    induction n with
    | zero => rfl
    | succ n ih =>
        rw [List.replicate_succ, List.map_cons, List.foldl_cons, Statistics.merge_self_empty, ih]
  refine ⟨?_, ⟨[], hStatistics workers, by rw [hParsed]; exact .refl _⟩, by simpa [initial] using h⟩
  have hDue : (entries.mapIdx Numbered.mk).map (Numbered.map fun entry => (parse entry).untimed) =
      due parse entries := by
    apply List.ext_getElem?
    intro i
    simp [due, Numbered.map, Function.comp_def]
  rw [account, hParsed, hWaiting, List.map_nil, List.append_nil]
  exact .of_eq hDue

/-- A state stays accounted for when outcomes change their places only. -/
theorem Accounted.of_rearranged {parse : RawEntry → Outcome} (inv : state.Accounted parse entries)
    (hWaiting : next.waiting = state.waiting) (hParsed : next.parsed ~ state.parsed)
    (hStatistics : next.workers.map Worker.statistics = state.workers.map Worker.statistics) :
    next.Accounted parse entries := by
  obtain ⟨samples, hSamples, hRecorded⟩ := inv.recorded
  refine ⟨?_, ⟨samples, ?_, hRecorded.trans (hParsed.symm.map _)⟩, ?_⟩
  · rw [account, hWaiting]
    exact ((hParsed.map _).append_left _).trans inv.placed
  · rw [statistics, hStatistics]
    exact hSamples
  · have hLength := congrArg List.length hStatistics
    simp only [List.length_map] at hLength
    exact hLength ▸ inv.staffed

theorem Accounted.submit (inv : state.Accounted terms.parse entries)
    (h : state.submit? terms = some next) : next.Accounted terms.parse entries := by
  obtain ⟨item, pending, hPending, -, rfl⟩ := submit?_eq_some_iff.mp h
  exact inv.of_rearranged (by simp [waiting, hPending]) (.refl _) rfl

theorem Accounted.take (inv : state.Accounted terms.parse entries)
    (h : state.take? terms index elapsed = some next) : next.Accounted terms.parse entries := by
  obtain ⟨worker, item, work, hWorker, hWork, hHeld, rfl⟩ := take?_eq_some_iff.mp h
  generalize hOutcome :
    (⟨item.sequence, (terms.parse item.value).timed elapsed⟩ : Numbered Outcome) = outcome
  have hHolds : (state.workers.set index (worker.afterParsing outcome elapsed)).filterMap
      Worker.held ~ state.workers.filterMap Worker.held ++ [outcome] := by
    simpa [hHeld, Worker.afterParsing] using held_set hWorker (worker.afterParsing outcome elapsed)
  have hParsed : (state.workers.set index (worker.afterParsing outcome elapsed)).filterMap
      Worker.held ++ state.results ++ state.collected ~ outcome :: state.parsed := by
    refine ((hHolds.append_right _).append_right _).trans ?_
    simp [parsed]
  refine ⟨?_, ?_, by simpa using inv.staffed⟩
  · have hBecomes : Numbered.map Outcome.untimed outcome =
        item.map fun entry => (terms.parse entry).untimed := by
      simp [← hOutcome, Numbered.map]
    refine .trans ?_ inv.placed
    refine ((hParsed.map _).append_left _).trans ?_
    rw [List.map_cons, hBecomes]
    refine List.perm_middle.trans ?_
    simp [account, waiting, hWork]
  · obtain ⟨samples, hSamples, hRecorded⟩ := inv.recorded
    refine ⟨samples ++ [(outcome.value, elapsed)], ?_, ?_⟩
    · have hPart : (state.workers.map Worker.statistics)[index]? = some worker.statistics := by
        simp [hWorker]
      have hSet := Statistics.foldl_merge_set hPart {} outcome.value elapsed
      simp only [statistics, List.map_set, Worker.afterParsing] at hSamples ⊢
      rw [hSet, hSamples]
      simp [Statistics.ofSamples, Statistics.recordAll]
    · rw [List.map_append]
      refine (List.perm_append_comm.trans ?_).trans (hParsed.symm.map _)
      exact (hRecorded.cons outcome.value)

theorem Accounted.deliver (inv : state.Accounted terms.parse entries)
    (h : state.deliver? terms index = some next) : next.Accounted terms.parse entries := by
  obtain ⟨worker, outcome, hWorker, hHeld, -, rfl⟩ := deliver?_eq_some_iff.mp h
  refine inv.of_rearranged rfl ?_ ?_
  · have hHolds : (state.workers.set index worker.afterDelivery).filterMap Worker.held ++ [outcome]
        ~ state.workers.filterMap Worker.held := by
      simpa [hHeld, Worker.afterDelivery] using held_set hWorker worker.afterDelivery
    refine .append_right _ ?_
    refine (List.perm_append_comm.append_left _).trans ?_
    rw [← List.append_assoc]
    exact hHolds.append_right _
  · obtain ⟨hi, rfl⟩ := List.getElem?_eq_some_iff.mp hWorker
    have hIndex : index < (state.workers.map Worker.statistics).length := by simpa using hi
    have hSame : state.workers[index].afterDelivery.statistics =
        (state.workers.map Worker.statistics)[index] := by
      simp [Worker.afterDelivery]
    rw [List.map_set, hSame, List.set_getElem_self]

theorem Accounted.collect (inv : state.Accounted terms.parse entries)
    (h : state.collect? = some next) : next.Accounted terms.parse entries := by
  obtain ⟨outcome, results, hResults, rfl⟩ := collect?_eq_some_iff.mp h
  refine inv.of_rearranged rfl ?_ rfl
  simp only [parsed, hResults, List.append_assoc, List.cons_append]
  exact List.perm_middle.append_left _

/-- Every move keeps the invariant. -/
theorem Accounted.move {move : Move} (inv : state.Accounted terms.parse entries)
    (h : state.move? terms move = some next) : next.Accounted terms.parse entries := by
  cases move with
  | submit => exact inv.submit h
  | take => exact inv.take h
  | deliver => exact inv.deliver h
  | collect => exact inv.collect h

/-- Every sequence of moves keeps the invariant. -/
theorem Accounted.follow {moves : List Move} (inv : state.Accounted terms.parse entries)
    (h : state.follow? terms moves = some next) : next.Accounted terms.parse entries := by
  induction moves generalizing state with
  | nil =>
      obtain rfl : state = next := by simpa [follow?] using h
      exact inv
  | cons first rest ih =>
      simp only [follow?, List.foldlM_cons, Option.bind_eq_bind, Option.bind_eq_some_iff] at h
      obtain ⟨middle, hFirst, hRest⟩ := h
      exact ih (inv.move hFirst) hRest

end State
end LogIngest.Pool

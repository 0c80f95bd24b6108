import LogIngest.Entry.Basic
import LogIngest.Statistics.Basic

/-!
The state of a run of a pool. Entries wait to be submitted, stand in the work queue, are in the hands of
a worker as outcomes, stand in the result queue, or have been collected. A move carries one of them on,
and any order of moves is possible; one schedule makes one of the possible moves until none is left. Main
statement: every move leaves less to do.
-/

namespace LogIngest.Pool

/-- Something with the position of its entry in the input. -/
structure Numbered (α : Type) where
  sequence : Nat
  value : α

structure Worker where
  /-- The outcome that the worker has to deliver. -/
  held : Option (Numbered Outcome) := none
  /-- The statistics of the entries that the worker has parsed. -/
  statistics : Statistics := {}

namespace Worker

def isBusy (worker : Worker) : Bool :=
  worker.held.isSome

/-- The worker after it has parsed an entry, which took some time. -/
def afterParsing (worker : Worker) (outcome : Numbered Outcome) (elapsed : Duration) : Worker where
  held := some outcome
  statistics := worker.statistics.record outcome.value elapsed

/-- The worker after it has delivered its outcome. -/
def afterDelivery (worker : Worker) : Worker :=
  { worker with held := none }

@[simp] theorem isBusy_afterParsing (worker : Worker) (outcome : Numbered Outcome)
    (elapsed : Duration) : (worker.afterParsing outcome elapsed).isBusy = true := rfl

@[simp] theorem isBusy_afterDelivery (worker : Worker) : worker.afterDelivery.isBusy = false := rfl

end Worker

/-- What stays the same during a run: the parser, and how many items each queue holds. -/
structure Terms where
  parse : RawEntry → Outcome
  capacity : Nat

structure State where
  /-- The entries not yet submitted, in order. -/
  pending : List (Numbered RawEntry)
  /-- The work queue, oldest item first. -/
  work : List (Numbered RawEntry) := []
  workers : List Worker
  /-- The result queue, oldest item first. -/
  results : List (Numbered Outcome) := []
  /-- The outcomes collected so far, latest first. -/
  collected : List (Numbered Outcome) := []

/-- What can happen next in a run. -/
inductive Move where
  /-- The next entry enters the work queue. -/
  | submit
  /-- An idle worker takes an item from the work queue and parses its entry, which takes some time. -/
  | take (worker : Nat) (elapsed : Duration)
  /-- A worker puts its outcome into the result queue. -/
  | deliver (worker : Nat)
  /-- An outcome is collected from the result queue. -/
  | collect
deriving DecidableEq, Repr

namespace State

/-- The state before the first move. -/
def initial (entries : List RawEntry) (workers : Nat) : State where
  pending := entries.mapIdx Numbered.mk
  workers := List.replicate workers {}

def submit? (terms : Terms) (state : State) : Option State :=
  match state.pending with
  | item :: pending =>
    if state.work.length < terms.capacity then
      some { state with pending, work := state.work ++ [item] }
    else none
  | [] => none

def take? (terms : Terms) (state : State) (index : Nat) (elapsed : Duration) : Option State :=
  match state.workers[index]?, state.work with
  | some worker, item :: work =>
    if worker.isBusy then none
    else
      let outcome : Numbered Outcome := ⟨item.sequence, (terms.parse item.value).timed elapsed⟩
      some { state with
        work
        workers := state.workers.set index (worker.afterParsing outcome elapsed) }
  | _, _ => none

def deliver? (terms : Terms) (state : State) (index : Nat) : Option State :=
  match state.workers[index]? with
  | some worker =>
    match worker.held with
    | some outcome =>
      if state.results.length < terms.capacity then
        some { state with
          results := state.results ++ [outcome]
          workers := state.workers.set index worker.afterDelivery }
      else none
    | none => none
  | none => none

def collect? (state : State) : Option State :=
  match state.results with
  | outcome :: results => some { state with results, collected := outcome :: state.collected }
  | [] => none

/-- The state after a move, if it is possible. -/
def move? (terms : Terms) (state : State) : Move → Option State
  | .submit => state.submit? terms
  | .take index elapsed => state.take? terms index elapsed
  | .deliver index => state.deliver? terms index
  | .collect => state.collect?

/-- The state after a sequence of moves, if each of them is possible. -/
def follow? (terms : Terms) (state : State) (moves : List Move) : Option State :=
  moves.foldlM (move? terms) state

/-- Whether every entry has been carried to the end. -/
def isFinished (state : State) : Bool :=
  state.pending.isEmpty && state.work.isEmpty && state.workers.all (!·.isBusy) &&
    state.results.isEmpty

/-- How many moves are still to be made. -/
def remaining (state : State) : Nat :=
  4 * state.pending.length + 3 * state.work.length + 2 * state.workers.countP Worker.isBusy +
    state.results.length

theorem remaining_submit? {terms : Terms} {state next : State}
    (h : state.submit? terms = some next) : next.remaining < state.remaining := by
  unfold submit? at h
  split at h
  · next item pending hp =>
    split at h
    · cases h
      simp only [remaining, hp, List.length_append, List.length_cons, List.length_nil]
      omega
    · cases h
  · cases h

theorem remaining_take? {terms : Terms} {state next : State} {index : Nat} {elapsed : Duration}
    (h : state.take? terms index elapsed = some next) : next.remaining < state.remaining := by
  unfold take? at h
  split at h
  · next worker item work hw hq =>
    split at h
    · cases h
    · cases h
      obtain ⟨hi, rfl⟩ := List.getElem?_eq_some_iff.mp hw
      simp only [remaining, hq, List.countP_set hi, Worker.isBusy_afterParsing, if_true,
        List.length_cons]
      omega
  · cases h

theorem remaining_deliver? {terms : Terms} {state next : State} {index : Nat}
    (h : state.deliver? terms index = some next) : next.remaining < state.remaining := by
  unfold deliver? at h
  split at h
  · next worker hw =>
    split at h
    · next outcome ho =>
      split at h
      · cases h
        obtain ⟨hi, rfl⟩ := List.getElem?_eq_some_iff.mp hw
        have hbusy : Worker.isBusy state.workers[index] = true := by simp [Worker.isBusy, ho]
        have hle := List.boole_getElem_le_countP (p := Worker.isBusy) hi
        rw [if_pos hbusy] at hle
        simp only [remaining, List.countP_set hi, hbusy, Worker.isBusy_afterDelivery, if_true,
          Bool.false_eq_true, if_false, List.length_append, List.length_cons, List.length_nil]
        omega
      · cases h
    · cases h
  · cases h

theorem remaining_collect? {state next : State} (h : state.collect? = some next) :
    next.remaining < state.remaining := by
  unfold collect? at h
  split at h
  · next outcome results hr =>
    cases h
    simp only [remaining, hr, List.length_cons]
    omega
  · cases h

/-- Every move leaves less to do, so no run goes on for ever. -/
theorem remaining_move? {terms : Terms} {state next : State} {move : Move}
    (h : state.move? terms move = some next) : next.remaining < state.remaining := by
  cases move with
  | submit => exact remaining_submit? h
  | take => exact remaining_take? h
  | deliver => exact remaining_deliver? h
  | collect => exact remaining_collect? h

/-- The next move: an outcome is collected as soon as there is one, work is taken as soon as there is a
worker for it and submitted only then, and a worker delivers when there is nothing else to do. -/
def nextMove (state : State) (elapsed : Nat → Duration) : Move :=
  match state.results, state.work, state.workers.findIdx? (!·.isBusy), state.pending with
  | _ :: _, _, _, _ => .collect
  | [], item :: _, some worker, _ => .take worker (elapsed item.sequence)
  | [], [], _, _ :: _ => .submit
  | [], _, _, _ => .deliver ((state.workers.findIdx? Worker.isBusy).getD 0)

/-- The state at the end of the schedule. It is given how long the entry at each position takes. -/
def settle (terms : Terms) (elapsed : Nat → Duration) (state : State) : State :=
  match _h : state.move? terms (state.nextMove elapsed) with
  | some next => settle terms elapsed next
  | none => state
termination_by state.remaining
decreasing_by exact remaining_move? _h

end State
end LogIngest.Pool

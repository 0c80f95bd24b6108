import LogIngest.Decimal.Numeral
import LogIngest.Json.Writer
import LogIngest.Pool.State
import LogIngest.Repository

/-!
Pools of workers that parse entries with the parsers of one repository, and their settings. Each worker
counts for itself; the statistics of a run are merged when it ends, and added to those of the pool.
-/

namespace LogIngest.Pool

structure Settings where
  /-- The number of workers; zero for one on each processor. -/
  workers : Nat := 0
  /-- How many items each queue holds. -/
  queueCapacity : Nat := 10000
deriving DecidableEq, Repr

namespace Settings

/-- How many workers there are on a machine with so many processors. -/
def workerCount (settings : Settings) (processors : Nat) : Nat :=
  if settings.workers = 0 then max 1 processors else settings.workers

/-- How many items each queue holds, at least one. -/
def capacity (settings : Settings) : Nat :=
  max 1 settings.queueCapacity

def toJson (settings : Settings) : Json.Value :=
  .object [
    ("num_workers", .number (.integer settings.workers)),
    ("queue_capacity", .number (.integer settings.queueCapacity))]

end Settings
end LogIngest.Pool

namespace LogIngest

structure Pool where
  settings : Pool.Settings
  registry : Registry
  config : RepositoryConfig
  /-- The statistics of all runs since the last reset. -/
  statistics : Statistics := {}

namespace Pool

/-- What a run gives: the outcomes in the order of their entries, and their statistics. -/
structure Report where
  outcomes : List (Numbered Outcome)
  statistics : Statistics

/-- The report of a run that has come to its end. -/
def State.report (state : State) : Report where
  outcomes := state.collected.mergeSort fun a b => a.sequence ≤ b.sequence
  statistics := state.workers.foldl (fun all worker => all.merge worker.statistics) {}

/-- A pool for a repository. It is refused if the repository cannot be built. -/
def build (registry : Registry) (config : RepositoryConfig) (settings : Settings := {}) :
    Except SetupError Pool := do
  let _ ← Repository.build registry config
  return { settings, registry, config }

/-- The terms of the pool's runs. The workers' repositories are all built in the same way. -/
def terms (pool : Pool) : Except SetupError Terms := do
  let repository ← Repository.build pool.registry pool.config
  return { parse := repository.parse, capacity := pool.settings.capacity }

/-- Adds the statistics of a run to those of the pool. -/
def absorb (pool : Pool) (report : Report) : Pool :=
  { pool with statistics := pool.statistics.merge report.statistics }

/-- Forgets the statistics of all runs. -/
def reset (pool : Pool) : Pool :=
  { pool with statistics := {} }

/-- Runs entries through the queues of the pool, on a machine with so many processors. The entry at
each position takes a given time. -/
def process (pool : Pool) (entries : List RawEntry) (processors : Nat)
    (elapsed : Nat → Duration) : Except SetupError Report := do
  let terms ← pool.terms
  let state := State.initial entries (pool.settings.workerCount processors)
  return (state.settle terms elapsed).report

/-- Parses entries one by one, without queues. -/
def processBatch (pool : Pool) (entries : List RawEntry) (elapsed : Nat → Duration) :
    Except SetupError Report := do
  let terms ← pool.terms.mapError (.instantiationFailed pool.config.name)
  let outcomes := entries.mapIdx fun i entry =>
    (⟨i, (terms.parse entry).timed (elapsed i)⟩ : Numbered Outcome)
  return {
    outcomes
    statistics := outcomes.foldl (fun all o => all.record o.value (elapsed o.sequence)) {} }

/-- Runs entries and adds their statistics to those of the pool. -/
def run (pool : Pool) (entries : List RawEntry) (processors : Nat := 1)
    (elapsed : Nat → Duration := fun _ => 0) : Except SetupError (Report × Pool) := do
  let report ← pool.process entries processors elapsed
  return (report, pool.absorb report)

/-- Parses a batch and adds its statistics to those of the pool. -/
def runBatch (pool : Pool) (entries : List RawEntry) (elapsed : Nat → Duration := fun _ => 0) :
    Except SetupError (Report × Pool) := do
  let report ← pool.processBatch entries elapsed
  return (report, pool.absorb report)

end Pool
end LogIngest

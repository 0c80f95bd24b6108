import LogIngest.Json.Record
import LogIngest.Statistics.Basic

/-!
Statistics as JSON documents.
-/

namespace LogIngest

open Json

namespace Duration

def toJson (duration : Duration) : Value :=
  .number (.integer duration.micros)

def decoder : Decoder Duration := fun levels text =>
  (Decoder.natural "u64" levels text).map fun (micros, rest) => (.ofMicros micros, rest)

end Duration

namespace Timing

def toJson (timing : Timing) : Value :=
  .object [
    ("total_time", timing.total.toJson),
    ("min_time", (timing.least.map Duration.toJson).getD .null),
    ("max_time", timing.most.toJson),
    ("avg_time", .number (.double timing.average))]

/-- The members of timing given so far. -/
structure Draft where
  total : Option Duration := none
  least : Option (Option Duration) := none
  most : Option Duration := none
  average : Option Float := none

def layout : Record Draft Timing where
  name := "ProcessingTimeStats"
  members := [
    .of "total_time" Draft.total (fun d x => { d with total := some x }) Duration.decoder false,
    .of "min_time" Draft.least (fun d x => { d with least := some x })
      (.option Duration.decoder) false,
    .of "max_time" Draft.most (fun d x => { d with most := some x }) Duration.decoder false,
    .of "avg_time" Draft.average (fun d x => { d with average := some x }) .double false]
  start := {}
  finish d := do
    let total ← required "total_time" d.total
    let most ← required "max_time" d.most
    let average ← required "avg_time" d.average
    return { total, least := d.least.getD none, most, average }

end Timing

namespace Tally

def toJson (tally : Tally) : Value :=
  .object (tally.map fun n : Nat => Value.number (.integer n)).entries

def decoder : Decoder Tally :=
  .dictionary (.natural "usize")

end Tally

namespace Statistics

def toJson (statistics : Statistics) : Value :=
  let count (n : Nat) : Value := .number (.integer n)
  .object [
    ("total_entries", count statistics.total),
    ("stored_entries", count statistics.stored),
    ("skipped_entries", count statistics.skipped),
    ("contract_violations", count statistics.contractViolations),
    ("tolerated_field_failures", count statistics.toleratedFailures),
    ("parser_distribution", statistics.parsers.toJson),
    ("skip_reasons", statistics.reasons.toJson),
    ("processing_time_micros", statistics.timing.toJson)]

/-- The members of statistics given so far. -/
structure Draft where
  total : Option Nat := none
  stored : Option Nat := none
  skipped : Option Nat := none
  contractViolations : Option Nat := none
  toleratedFailures : Option Nat := none
  parsers : Option Tally := none
  reasons : Option Tally := none
  timing : Option Timing := none

def layout : Record Draft Statistics where
  name := "ParsingStatistics"
  members := [
    .of "total_entries" Draft.total (fun d x => { d with total := some x })
      (.natural "usize") false,
    .of "stored_entries" Draft.stored (fun d x => { d with stored := some x })
      (.natural "usize") false,
    .of "skipped_entries" Draft.skipped (fun d x => { d with skipped := some x })
      (.natural "usize") false,
    .of "contract_violations" Draft.contractViolations
      (fun d x => { d with contractViolations := some x }) (.natural "usize") false,
    .of "tolerated_field_failures" Draft.toleratedFailures
      (fun d x => { d with toleratedFailures := some x }) (.natural "usize") false,
    .of "parser_distribution" Draft.parsers (fun d x => { d with parsers := some x })
      Tally.decoder false,
    .of "skip_reasons" Draft.reasons (fun d x => { d with reasons := some x })
      Tally.decoder false,
    .of "processing_time_micros" Draft.timing (fun d x => { d with timing := some x })
      Timing.layout.decoder false]
  start := {}
  finish d := do
    let total ← required "total_entries" d.total
    let stored ← required "stored_entries" d.stored
    let skipped ← required "skipped_entries" d.skipped
    let contractViolations ← required "contract_violations" d.contractViolations
    let toleratedFailures ← required "tolerated_field_failures" d.toleratedFailures
    let parsers ← required "parser_distribution" d.parsers
    let reasons ← required "skip_reasons" d.reasons
    let timing ← required "processing_time_micros" d.timing
    return {
      total, stored, skipped, contractViolations, toleratedFailures, parsers, reasons, timing }

def decoder : Decoder Statistics :=
  layout.decoder

end Statistics
end LogIngest

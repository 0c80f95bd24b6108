import LogIngest.Decimal.Layout
import LogIngest.Statistics.Basic
import LogIngest.Text.Pieces

/-!
Statistics as text for people: a report, a line for continuous monitoring, and a summary with the counts and a
bar for each parser.
-/

namespace LogIngest

namespace Statistics

/-- A count in decimal. -/
def countText (n : Nat) : String :=
  String.ofList (natText n)

/-- A number with so many decimal places. -/
def placesText (places : Nat) (x : Float) : String :=
  String.ofList (fixedText places x)

/-- A duration with its unit. -/
def micros (duration : Duration) : String :=
  countText duration.micros ++ "μs"

/-- The lines of a tally, each count also as a share of the whole. -/
def shareLines (tally : Tally) (whole : Nat) : List String :=
  tally.entries.map fun (name, n) =>
    name ++ ": " ++ countText n ++ " (" ++ placesText 2 (percentage n whole) ++ "%)"

/-- The entries processed in a second; none if no time has passed. -/
def throughput? (statistics : Statistics) : Option Float :=
  let micros := statistics.timing.total.micros
  if 0 < statistics.total ∧ 0 < micros then
    some (Float.ofNat statistics.total / (Float.ofNat micros / 1000000))
  else none

/-- The lines of the report. -/
def reportLines (statistics : Statistics) : List String :=
  let timing := statistics.timing
  ["=== Ingestion Statistics Report ===",
    "Total entries processed: " ++ countText statistics.total,
    "Stored entries: " ++ countText statistics.stored ++
      " (" ++ placesText 2 statistics.storeRate ++ "%)",
    "Skipped entries: " ++ countText statistics.skipped ++
      " (" ++ placesText 2 statistics.skipRate ++ "%)",
    "Contract violations: " ++ countText statistics.contractViolations,
    "Tolerated field failures: " ++ countText statistics.toleratedFailures,
    "",
    "--- Parser Distribution ---"] ++
  shareLines statistics.parsers statistics.stored ++
  ["", "--- Skip Reasons ---"] ++
  shareLines statistics.reasons statistics.skipped ++
  ["",
    "--- Performance Metrics ---",
    "Total processing time: " ++ micros timing.total,
    "Average processing time: " ++ placesText 2 timing.average ++ "μs",
    "Min processing time: " ++ micros (timing.least.getD 0),
    "Max processing time: " ++ micros timing.most] ++
  (statistics.throughput?.map fun rate =>
    "Throughput: " ++ placesText 2 rate ++ " entries/second").toList

/-- The report; each of its lines is ended. -/
def report (statistics : Statistics) : String :=
  String.join (statistics.reportLines.map (· ++ "\n"))

/-- The line for continuous monitoring. -/
def statusLine (statistics : Statistics) : String :=
  " | ".intercalate [
    "Entries: " ++ countText statistics.total,
    "Stored: " ++ placesText 1 statistics.storeRate ++ "%",
    "Skipped: " ++ placesText 1 statistics.skipRate ++ "%",
    "Field failures: " ++ countText statistics.toleratedFailures,
    "Avg Time: " ++ placesText 1 statistics.timing.average ++ "μs"]

/-! ### At a glance -/

/-- A count with its rate. -/
def rateText (n : Nat) (rate : Float) : String :=
  countText n ++ " (" ++ placesText 1 rate ++ "%)"

/-- The line of a parser: its entries, their share of all entries, and a bar of forty places for the
whole. -/
def parserLine (total : Nat) (name : String) (n : Nat) : String :=
  let share := Float.ofNat n / Float.ofNat (max 1 total)
  "  " ++ Text.alignLeft 20 name ++ " " ++ Text.alignRight 6 (countText n) ++
    " (" ++ Text.alignRight 5 (placesText 1 (share * 100)) ++ "%) " ++
    Text.bar '█' (share * 40).toUInt64.toNat

/-- The line of a reason. -/
def reasonLine (name : String) (n : Nat) : String :=
  "  " ++ Text.alignLeft 20 name ++ " " ++ Text.alignRight 6 (countText n)

/-- A titled block of lines after an empty line; nothing without lines. -/
def titled (title : String) (lines : List String) : List String :=
  if lines.isEmpty then [] else ["", title ++ ":"] ++ lines

/-- The lines of the summary, told how many lines of the input were malformed. -/
def summaryLines (statistics : Statistics) (malformed : Nat) : List String :=
  let rule := Text.bar '═' 50
  ["", rule, "SUMMARY", rule,
    "Total entries:    " ++ countText statistics.total,
    "Stored:           " ++ rateText statistics.stored statistics.storeRate,
    "Skipped:          " ++ rateText statistics.skipped statistics.skipRate] ++
  (if malformed = 0 then [] else ["Malformed lines:  " ++ countText malformed]) ++
  titled "Parser Distribution"
    (statistics.parsers.entries.map fun (name, n) => parserLine statistics.total name n) ++
  titled "Skip Reasons" (statistics.reasons.entries.map fun (name, n) => reasonLine name n)

end Statistics
end LogIngest

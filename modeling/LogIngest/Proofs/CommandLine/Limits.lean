import LogIngest.Proofs.CommandLine.Counts

/-!
The limit of how many entries are listed. Main statement: beside a run without a limit, one with a limit goes
through the same lines with the same reports and counts, and lists the first of the same entries, as many as it
may.
-/

namespace LogIngest.CommandLine

open Calendar (Instant)
open Files (Located Readout ReadFault)

/-! ### Line by line -/

/-- How far the command has come: the number of entries that it has listed, the lines that it has printed, the
entries that it keeps for an array, its reports, and what it has counted. -/
structure Progress where
  listed : Nat := 0
  printed : List String := []
  kept : List SavedEntry := []
  reports : List String := []
  statistics : Statistics := {}

namespace ParseOptions

/-- The command with another limit or none. -/
def withLimit (options : ParseOptions) (limit : Option Nat) : ParseOptions :=
  { options with limit }

/-- Lists an entry, unless as many as may be are listed. Elements of an array are kept, others are printed. -/
def list (options : ParseOptions) (progress : Progress) (saved : SavedEntry) : Progress :=
  if options.limit.any (· ≤ progress.listed) then progress
  else
    match options.listing with
    | .json => { progress with listed := progress.listed + 1, kept := progress.kept ++ [saved] }
    | listing =>
      { progress with listed := progress.listed + 1, printed := progress.printed ++ [listing.line saved] }

/-- Reports and counts what becomes of a line, and lists its entry if it is stored. -/
def advance (options : ParseOptions) (now : Instant) (progress : Progress) (line : Located LineResult) :
    Progress :=
  let noted :=
    { progress with
      reports := progress.reports ++ (LineResult.complaint? line).toList
      statistics := LineResult.count progress.statistics line }
  match LineResult.stored? line with
  | some entry => options.list noted { entry, savedAt := now }
  | none => noted

/-- Where the command is behind some lines. -/
def progress (options : ParseOptions) (now : Instant) (lines : List (Located LineResult)) : Progress :=
  lines.foldl (options.advance now) {}

/-- What it has printed when it comes to an end. -/
def finish (options : ParseOptions) (fault : Option ReadFault) (progress : Progress) : Transcript :=
  { output := options.listing.header ++ (progress.printed ++
      if options.listing = .json ∧ fault.isNone then [Listing.json.text progress.kept] else [])
    errors := progress.reports ++ if fault.isNone then [progress.statistics.statusLine] else []
    failure := fault.map .file }

end ParseOptions

/-- The entries of lines that are stored, as they are saved. -/
def savedOf (now : Instant) (lines : List (Located LineResult)) : List SavedEntry :=
  (lines.filterMap LineResult.stored?).map fun entry => { entry, savedAt := now }

/-- The command has listed some entries, or keeps them for its array. -/
structure Progress.Lists (progress : Progress) (listing : Listing) (entries : List SavedEntry) : Prop where
  listed : progress.listed = entries.length
  printed : progress.printed = if listing = .json then [] else entries.map listing.line
  kept : progress.kept = if listing = .json then entries else []

/-- What the command has done behind some lines, if these are the entries that it has listed. -/
structure Progress.Shows (progress : Progress) (listing : Listing) (entries : List SavedEntry)
    (lines : List (Located LineResult)) : Prop extends progress.Lists listing entries where
  reports : progress.reports = lines.filterMap LineResult.complaint?
  statistics : progress.statistics = ParseOptions.statistics lines

/-- One more element is taken only if the limit is not reached. -/
theorem take_concat {α : Type} (limit : Nat) (as : List α) (a : α) :
    (as ++ [a]).take limit = if limit ≤ (as.take limit).length then as.take limit else as.take limit ++ [a] := by
  rcases Nat.lt_or_ge as.length limit with hMore | hFull
  · have hAll : as.take limit = as := List.take_of_length_le (Nat.le_of_lt hMore)
    rw [hAll, if_neg (Nat.not_le.mpr hMore)]
    exact List.take_of_length_le (by simpa using Nat.succ_le_of_lt hMore)
  · rw [List.take_append_of_le_length hFull, List.length_take, Nat.min_eq_left hFull, if_pos le_rfl]

namespace ParseOptions

variable {options : ParseOptions}

/-- One more entry is listed only if the limit is not reached. -/
theorem listed_concat (stored : List SavedEntry) (saved : SavedEntry) :
    options.listed (stored ++ [saved]) =
      if options.limit.any (· ≤ (options.listed stored).length) then options.listed stored
      else options.listed stored ++ [saved] := by
  unfold listed
  cases options.limit with
  | none => rfl
  | some limit => simpa using take_concat limit stored saved

/-- Listing an entry shows it behind the others, unless the limit is reached. -/
theorem shows_list {progress : Progress} {entries : List SavedEntry} {lines : List (Located LineResult)}
    (h : progress.Shows options.listing entries lines) (saved : SavedEntry) :
    (options.list progress saved).Shows options.listing
      (if options.limit.any (· ≤ entries.length) then entries else entries ++ [saved]) lines := by
  obtain ⟨⟨hListed, hPrinted, hKept⟩, hReports, hStatistics⟩ := h
  rw [list, hListed]
  split
  · exact ⟨⟨hListed, hPrinted, hKept⟩, hReports, hStatistics⟩
  · cases hListing : options.listing <;> rw [hListing] at hPrinted hKept <;>
      exact ⟨⟨by simp, by simp [hPrinted], by simp [hKept]⟩, hReports, hStatistics⟩

/-- One more line has at most one more entry. -/
theorem savedOf_concat (now : Instant) (lines : List (Located LineResult)) (line : Located LineResult) :
    savedOf now (lines ++ [line]) =
      savedOf now lines ++ (LineResult.stored? line).toList.map fun entry => { entry, savedAt := now } := by
  rw [savedOf, List.filterMap_append, List.map_append, savedOf]
  cases hStored : LineResult.stored? line <;> simp [hStored]

/-- What is listed behind each line are the first of the entries stored so far. -/
theorem shows_advance {now : Instant} {progress : Progress} {lines : List (Located LineResult)}
    (h : progress.Shows options.listing (options.listed (savedOf now lines)) lines)
    (line : Located LineResult) :
    (options.advance now progress line).Shows options.listing (options.listed (savedOf now (lines ++ [line])))
      (lines ++ [line]) := by
  have hNoted : Progress.Shows
      { progress with
        reports := progress.reports ++ (LineResult.complaint? line).toList
        statistics := LineResult.count progress.statistics line }
      options.listing (options.listed (savedOf now lines)) (lines ++ [line]) := by
    refine ⟨⟨h.listed, h.printed, h.kept⟩, ?_, ?_⟩
    · rw [h.reports, List.filterMap_append]
      cases hComplaint : LineResult.complaint? line <;> simp [hComplaint]
    · rw [h.statistics, statistics, statistics, List.foldl_append]
      rfl
  rw [advance, savedOf_concat]
  cases LineResult.stored? line with
  | none => simpa using hNoted
  | some entry =>
      simp only [Option.toList_some, List.map_cons, List.map_nil, listed_concat]
      exact shows_list hNoted _

/-- After every line, just the listed entries are shown. -/
theorem shows_progress (options : ParseOptions) (now : Instant) (lines : List (Located LineResult)) :
    (options.progress now lines).Shows options.listing (options.listed (savedOf now lines)) lines := by
  induction lines using List.reverseRecOn with
  | nil =>
      have hNone : options.listed (savedOf now []) = [] := by
        rw [savedOf, List.filterMap_nil, List.map_nil, listed]
        cases options.limit <;> simp
      rw [hNone]
      exact ⟨⟨rfl, by simp [progress], by simp [progress]⟩, rfl, rfl⟩
  | append_singleton lines line ih =>
      rw [progress, List.foldl_append]
      exact shows_advance ih line

/-- What is printed in the end is what the lines one after another have led to. -/
theorem transcript_eq_finish (options : ParseOptions) (now : Instant) (results : Readout (Located LineResult)) :
    options.transcript now results = options.finish results.fault (options.progress now results.items) := by
  obtain ⟨⟨-, hPrinted, hKept⟩, hReports, hStatistics⟩ := options.shows_progress now results.items
  have hLines : options.entryLines (savedOf now results.items) results.fault.isNone =
      (options.progress now results.items).printed ++
        if options.listing = .json ∧ results.fault.isNone then
          [Listing.json.text (options.progress now results.items).kept] else [] := by
    rw [entryLines, hPrinted, hKept]
    cases options.listing <;> simp
  rw [transcript, finish, ← hLines, hReports, hStatistics]
  rfl

end ParseOptions

/-! ### The same lines at another time -/

/-- The entry as it is if it comes in at another time. Only bare messages have that time as their timestamp. -/
def arriving (stamp : Option Stamp) (now : Instant) (entry : ParsedEntry) : ParsedEntry :=
  match stamp with
  | none => entry
  | some _ => { entry with timestamp := { now with clock := now.clock.wholeMillis } }

/-- The entry as it is saved if it comes in at another time. -/
def savedAgain (stamp : Option Stamp) (now : Instant) (saved : SavedEntry) : SavedEntry where
  entry := arriving stamp now saved.entry
  savedAt := now

/-- The same becomes of a line at another time: it is malformed or its entry skipped for the same reason, or its
entry is stored by the same parser with the same failures. -/
inductive LineResult.Alike (stamp : Option Stamp) (later : Instant) : LineResult → LineResult → Prop where
  | malformed (reason : String) : Alike stamp later (.malformed reason) (.malformed reason)
  | skipped (reason : SkipReason) (elapsed otherElapsed : Duration) :
      Alike stamp later (.parsed (.error reason) elapsed) (.parsed (.error reason) otherElapsed)
  | stored {result other : Result} (elapsed otherElapsed : Duration)
      (hEntry : other.entry = arriving stamp later result.entry) (hParser : other.parser = result.parser)
      (hFailures : other.failures = result.failures) :
      Alike stamp later (.parsed (.ok result) elapsed) (.parsed (.ok other) otherElapsed)

/-- What becomes of one line in two runs. -/
inductive SameLine (stamp : Option Stamp) (later : Instant) : Located LineResult → Located LineResult → Prop where
  | at (path : String) (line : Nat) {value other : LineResult} (h : value.Alike stamp later other) :
      SameLine stamp later { path, line, value } { path, line, value := other }

namespace SameLine

variable {stamp : Option Stamp} {later : Instant} {line other : Located LineResult}

/-- Such lines are reported alike. -/
theorem complaint? (h : SameLine stamp later line other) :
    LineResult.complaint? other = LineResult.complaint? line := by
  obtain ⟨path, line, h⟩ := h
  cases h <;> rfl

/-- Such lines store entries that differ in when they arrived. -/
theorem stored? (h : SameLine stamp later line other) :
    LineResult.stored? other = (LineResult.stored? line).map (arriving stamp later) := by
  obtain ⟨path, line, h⟩ := h
  cases h with
  | malformed reason => rfl
  | skipped reason elapsed otherElapsed => rfl
  | stored elapsed otherElapsed hEntry hParser hFailures => exact congrArg some hEntry

/-- Such lines are counted alike, but for times. -/
theorem untimed_count (h : SameLine stamp later line other) {statistics others : Statistics}
    (hStatistics : others.untimed = statistics.untimed) :
    (LineResult.count others other).untimed = (LineResult.count statistics line).untimed := by
  obtain ⟨path, line, h⟩ := h
  cases h with
  | malformed reason => exact hStatistics
  | skipped reason elapsed otherElapsed => exact (Outcome.CountsAs.refl _).untimed_record hStatistics _ _
  | stored elapsed otherElapsed hEntry hParser hFailures =>
      have hCounts : Outcome.CountsAs (.ok _) (.ok _) := .stored hParser (congrArg List.length hFailures)
      exact hCounts.untimed_record hStatistics otherElapsed elapsed

variable {lines others : List (Located LineResult)}

/-- The reports of all such lines are the same. -/
theorem filterMap_complaint? (h : List.Forall₂ (SameLine stamp later) lines others) :
    others.filterMap LineResult.complaint? = lines.filterMap LineResult.complaint? := by
  induction h with
  | nil => rfl
  | cons hLine _ ih => rw [List.filterMap_cons, List.filterMap_cons, hLine.complaint?, ih]

/-- The entries of all such lines are the same, but for when they arrived. -/
theorem savedOf (h : List.Forall₂ (SameLine stamp later) lines others) (now : Instant) :
    savedOf later others = (savedOf now lines).map (savedAgain stamp later) := by
  induction h with
  | nil => rfl
  | @cons line _ _ _ hLine _ ih =>
      simp only [CommandLine.savedOf] at ih ⊢
      rw [List.filterMap_cons, List.filterMap_cons, hLine.stored?]
      cases LineResult.stored? line with
      | none => exact ih
      | some entry => exact congrArg (_ :: ·) ih

/-- All such lines are counted alike, but for times. -/
theorem untimed_statistics (h : List.Forall₂ (SameLine stamp later) lines others) :
    (ParseOptions.statistics others).untimed = (ParseOptions.statistics lines).untimed := by
  have hFold : ∀ {statistics before : Statistics}, before.untimed = statistics.untimed →
      (others.foldl LineResult.count before).untimed = (lines.foldl LineResult.count statistics).untimed := by
    induction h with
    | nil => exact id
    | cons hLine _ ih => exact fun hBefore => ih (hLine.untimed_count hBefore)
  exact hFold rfl

end SameLine

theorem alike_timed {stamp : Option Stamp} {later : Instant} {outcome other : Outcome}
    (h : other = outcome.map fun result => { result with entry := arriving stamp later result.entry })
    (elapsed otherElapsed : Duration) :
    LineResult.Alike stamp later (.parsed (outcome.timed elapsed) elapsed)
      (.parsed (other.timed otherElapsed) otherElapsed) := by
  subst h
  cases outcome with
  | error reason => exact .skipped reason elapsed otherElapsed
  | ok result => exact .stored elapsed otherElapsed rfl rfl rfl

section

variable {config : RepositoryConfig} {repository : Repository}

/-- Whether a line is malformed does not depend on when it comes in, and neither does what is made of its entry,
apart from the timestamp. -/
theorem ofLine_later (hBuild : Repository.build {} config = .ok repository) (stamp : Option Stamp)
    (now later : Instant) (line : String) :
    (∃ fault, RawEntry.ofLine stamp now line = .error fault ∧ RawEntry.ofLine stamp later line = .error fault) ∨
      ∃ entry other, RawEntry.ofLine stamp now line = .ok entry ∧ RawEntry.ofLine stamp later line = .ok other ∧
        repository.parse other = (repository.parse entry).map fun result =>
          { result with entry := arriving stamp later result.entry } := by
  cases stamp with
  | none =>
      cases hLine : RawEntry.ofLine none now line with
      | error fault => exact .inl ⟨fault, rfl, hLine⟩
      | ok entry =>
          refine .inr ⟨entry, entry, rfl, hLine, ?_⟩
          cases repository.parse entry <;> rfl
  | some stamp => exact .inr ⟨_, _, rfl, rfl, Repository.parse_stamp hBuild rfl stamp line now later⟩

/-- Lines are parsed alike whenever they come in and however long that takes. -/
theorem forall₂_parseLines (hBuild : Repository.build {} config = .ok repository) (stamp : Option Stamp)
    (now later : Instant) (elapsed otherElapsed : Nat → Duration) (lines : List (Located String)) (before : Nat) :
    List.Forall₂ (SameLine stamp later)
      (parseLines repository.parse elapsed before (lines.map (decodeLine stamp now)))
      (parseLines repository.parse otherElapsed before (lines.map (decodeLine stamp later))) := by
  induction lines generalizing before with
  | nil => exact .nil
  | cons line lines ih =>
      rw [List.map_cons, List.map_cons]
      rcases ofLine_later hBuild stamp now later line.value with
        ⟨fault, hLine, hLater⟩ | ⟨entry, other, hLine, hLater, hParsed⟩
      · simp only [decodeLine, Located.map, hLine, hLater, Except.mapError, parseLines]
        exact .cons (.at _ _ (.malformed _)) (ih before)
      · simp only [decodeLine, Located.map, hLine, hLater, Except.mapError, parseLines]
        exact .cons (.at _ _ (alike_timed hParsed _ _)) (ih (before + 1))

end

/-! ### With and without a limit -/

/-- As many entries are counted as stored as there are. -/
theorem stored_statistics (now : Instant) (lines : List (Located LineResult)) :
    (ParseOptions.statistics lines).stored = (savedOf now lines).length := by
  induction lines using List.reverseRecOn with
  | nil => rfl
  | append_singleton lines line ih =>
      have hLast : ParseOptions.statistics (lines ++ [line]) =
          LineResult.count (ParseOptions.statistics lines) line := by
        rw [ParseOptions.statistics, List.foldl_append]
        rfl
      rw [hLast, ParseOptions.savedOf_concat, List.length_append, ← ih, LineResult.count, LineResult.stored?]
      cases line.value with
      | malformed reason => rfl
      | parsed outcome elapsed => cases outcome <;> rfl

/-- How far two runs have come behind the same lines, if only the second one has a limit and some entries have
been stored: it has listed the first of them, as many as it may, and reported and counted the same. -/
structure Abreast (options : ParseOptions) (limit : Nat) (now later : Instant) (stored : List SavedEntry)
    (full limited : Progress) : Prop where
  count : full.statistics.stored = stored.length
  own : ∀ saved ∈ stored, savedAgain options.stamp now saved = saved
  listed : full.Lists options.listing stored
  truncated : limited.Lists options.listing ((stored.take limit).map (savedAgain options.stamp later))
  reports : limited.reports = full.reports
  counts : limited.statistics.untimed = full.statistics.untimed

/-- With and without a limit, the same has been read and counted after every line. -/
theorem abreast_progress (options : ParseOptions) (limit : Nat) {now later : Instant}
    {lines others : List (Located LineResult)} (hOwn : List.Forall₂ (SameLine options.stamp now) lines lines)
    (hLines : List.Forall₂ (SameLine options.stamp later) lines others) :
    Abreast options limit now later (savedOf now lines)
      ((options.withLimit none).progress now lines)
      ((options.withLimit (some limit)).progress later others) := by
  have hFull := ParseOptions.shows_progress (options.withLimit none) now lines
  have hLimited := ParseOptions.shows_progress (options.withLimit (some limit)) later others
  have hSaved : savedOf later others = (savedOf now lines).map (savedAgain options.stamp later) :=
    SameLine.savedOf hLines now
  have hStored : (savedOf later others).take limit =
      ((savedOf now lines).take limit).map (savedAgain options.stamp later) := by
    rw [hSaved, List.map_take]
  refine ⟨?_, ?_, hFull.toLists, ?_, ?_, ?_⟩
  · rw [hFull.statistics, stored_statistics now]
  · have hSame : (savedOf now lines).map (savedAgain options.stamp now) = savedOf now lines :=
      (SameLine.savedOf hOwn now).symm
    exact List.map_inj_left.mp (hSame.trans (List.map_id _).symm)
  · rw [← hStored]
    exact hLimited.toLists
  · rw [hFull.reports, hLimited.reports, SameLine.filterMap_complaint? hLines]
  · rw [hFull.statistics, hLimited.statistics, SameLine.untimed_statistics hLines]

namespace ParseOptions

/-- The lines of the files with what becomes of them. -/
def results (options : ParseOptions) (environment : Environment) (repository : Repository)
    (files : List String) : Readout (Located LineResult) where
  items := parseLines repository.parse environment.elapsed 0 (readEntries environment options.stamp files).items
  fault := (readEntries environment options.stamp files).fault

/-- The output of the command if it lists some entries. -/
def outputOf (options : ParseOptions) (entries : List SavedEntry) (complete : Bool) : List String :=
  options.listing.header ++ (options.withLimit none).entryLines entries complete

/-- A run ends with what its progress has come to after the last line. -/
theorem run_eq_finish {options : ParseOptions} {environment : Environment} {repository : Repository}
    {files : List String} (hPrepare : options.prepare environment = .ok (repository, files)) (hFiles : files ≠ []) :
    options.run environment =
      options.finish (options.results environment repository files).fault
        (options.progress environment.now (options.results environment repository files).items) := by
  rw [← transcript_eq_finish]
  cases files with
  | nil => exact absurd rfl hFiles
  | cons file files =>
      simp only [run, hPrepare]
      rfl

/-- At the end, the listed entries are the output. -/
theorem output_finish {options : ParseOptions} {entries : List SavedEntry} {progress : Progress}
    (h : progress.Lists options.listing entries) (limit : Option Nat) (fault : Option ReadFault) :
    ((options.withLimit limit).finish fault progress).output = options.outputOf entries fault.isNone := by
  simp only [finish, outputOf, withLimit, h.printed, h.kept, entryLines]
  cases options.listing <;> simp [listed]

end ParseOptions

/-- What two runs have printed in the end if only the second one has a limit and some entries have been stored.
Both stop for the same fault or for none. -/
structure EndsAlike (options : ParseOptions) (limit : Nat) (now later : Instant) (stored : List SavedEntry)
    (full limited : Transcript) : Prop where
  own : ∀ saved ∈ stored, savedAgain options.stamp now saved = saved
  failure : limited.failure = full.failure
  listed : full.output = options.outputOf stored full.failure.isNone
  truncated : limited.output =
    options.outputOf ((stored.take limit).map (savedAgain options.stamp later)) full.failure.isNone
  reports : ∃ complaints statistics others, statistics.stored = stored.length ∧
    Statistics.untimed others = Statistics.untimed statistics ∧
      full.errors = complaints ++ (if full.failure.isNone then [statistics.statusLine] else []) ∧
      limited.errors = complaints ++ if full.failure.isNone then [others.statusLine] else []

/-- Two runs that are abreast after the last line end alike. -/
theorem Abreast.endsAlike {options : ParseOptions} {limit : Nat} {now later : Instant} {stored : List SavedEntry}
    {full limited : Progress} (h : Abreast options limit now later stored full limited)
    (fault : Option ReadFault) :
    EndsAlike options limit now later stored ((options.withLimit none).finish fault full)
      ((options.withLimit (some limit)).finish fault limited) := by
  have hStops : (fault.map Failure.file).isNone = fault.isNone := Option.isNone_map
  refine ⟨h.own, rfl, ?_, ?_, full.reports, full.statistics, limited.statistics, h.count, h.counts, ?_, ?_⟩
  · rw [ParseOptions.output_finish h.listed]
    exact congrArg _ hStops.symm
  · rw [ParseOptions.output_finish h.truncated]
    exact congrArg _ hStops.symm
  · rw [ParseOptions.finish, hStops]
  · rw [ParseOptions.finish, ParseOptions.finish, hStops, h.reports]

/-- A run with a limit beside a run without one, which may come at different times. The same becomes of each
line, and behind each of them the runs are abreast; so what they have printed in the end is alike as well. -/
structure ParseOptions.Truncates (options : ParseOptions) (limit : Nat) (first second : Environment)
    (repository : Repository) (files : List String) : Prop where
  lines : List.Forall₂ (SameLine options.stamp second.now) (options.results first repository files).items
    (options.results second repository files).items
  along : ∀ count, Abreast options limit first.now second.now
    (savedOf first.now ((options.results first repository files).items.take count))
    ((options.withLimit none).progress first.now ((options.results first repository files).items.take count))
    ((options.withLimit (some limit)).progress second.now
      ((options.results second repository files).items.take count))
  ends : files ≠ [] → EndsAlike options limit first.now second.now
    (savedOf first.now (options.results first repository files).items)
    ((options.withLimit none).run first) ((options.withLimit (some limit)).run second)
  noFiles : files = [] → (options.withLimit none).run first = .noFiles ∧
    (options.withLimit (some limit)).run second = .noFiles

/-- A limit truncates what is listed, and does nothing else, whatever the files hold and whenever the two runs
come: entries are the same up to the times at which they are saved, and bare messages up to those at which they
come in. -/
theorem ParseOptions.truncates_of_limit {options : ParseOptions} {environment : Environment}
    {repository : Repository} {files : List String}
    (hPrepare : options.prepare environment = .ok (repository, files)) (limit : Nat) (later : Instant)
    (processors : Nat) (elapsed : Nat → Duration) :
    options.Truncates limit environment { environment with now := later, processors, elapsed } repository
      files := by
  obtain ⟨config, -, hBuilt⟩ := bind_eq_ok hPrepare
  obtain ⟨_, hStarts, hExpanded⟩ := bind_eq_ok hBuilt
  obtain ⟨_, -, ⟨⟩⟩ := bind_eq_ok hExpanded
  have hBuild := mapError_eq_ok hStarts
  let second : Environment := { environment with now := later, processors, elapsed }
  have hOwn : List.Forall₂ (SameLine options.stamp environment.now)
      (options.results environment repository files).items (options.results environment repository files).items :=
    forall₂_parseLines hBuild options.stamp environment.now environment.now _ _ _ 0
  have hLines : List.Forall₂ (SameLine options.stamp later)
      (options.results environment repository files).items (options.results second repository files).items :=
    forall₂_parseLines hBuild options.stamp environment.now later _ _ _ 0
  refine ⟨hLines, fun count => ?_, fun hFiles => ?_, ?_⟩
  · exact abreast_progress options limit (List.forall₂_take count hOwn) (List.forall₂_take count hLines)
  · have hFull : (options.withLimit none).prepare environment = .ok (repository, files) := hPrepare
    have hLimited : (options.withLimit (some limit)).prepare second = .ok (repository, files) := hPrepare
    rw [run_eq_finish hFull hFiles, run_eq_finish hLimited hFiles]
    exact (abreast_progress options limit hOwn hLines).endsAlike _
  · rintro rfl
    have hFull : (options.withLimit none).prepare environment = .ok (repository, []) := hPrepare
    have hLimited : (options.withLimit (some limit)).prepare second = .ok (repository, []) := hPrepare
    simp only [run, hFull, hLimited, second]
    exact ⟨trivial, trivial⟩

/-- Bare messages, each listed on a line of its own. -/
def webOptions : ParseOptions where
  config := "web.json"
  files := ["web.log"]
  stamp := some standardStamp
  listing := .ndjson
  limit := none

/-- Of two entries one is listed, though the runs take place on different days. -/
theorem ParseOptions.truncates_of_limit_webEnvironment :
    ∃ repository,
      webOptions.prepare webEnvironment = .ok (repository, ["web.log"]) ∧
        (savedOf newYear (webOptions.results webEnvironment repository ["web.log"]).items).length = 2 ∧
        webOptions.Truncates 1 webEnvironment { webEnvironment with now := leapDay, processors := 2 } repository
          ["web.log"] := by
  have hStored : ((RepositoryConfig.ofText webConfig).toOption.bind fun config =>
      (Repository.build {} config).toOption.map fun repository =>
        (savedOf newYear (parseLines repository.parse (fun _ => 0) 0
          ((Files.filledLines "web.log" webLines).map (decodeLine (some standardStamp) newYear)))).length) =
        some 2 := by
    decide +kernel
  obtain ⟨config, repository, hProvides, hStored⟩ := exists_webRepository hStored
  have hPrepare : webOptions.prepare webEnvironment = .ok (repository, ["web.log"]) :=
    Environment.Provides.prepare webOptions hProvides
  refine ⟨repository, hPrepare, ?_, ParseOptions.truncates_of_limit hPrepare 1 leapDay 2 fun _ => 0⟩
  have hItems : (readEntries webEnvironment (some standardStamp) ["web.log"]).items =
      (Files.filledLines "web.log" webLines).map (decodeLine (some standardStamp) newYear) := by
    rw [readEntries, Files.readLines_toUTF8 hProvides.reads]
    simp [Files.Readout.map, webEnvironment]
  rw [ParseOptions.results]
  exact (congrArg (fun items => (savedOf newYear (parseLines repository.parse _ 0 items)).length) hItems).trans
    hStored

end LogIngest.CommandLine

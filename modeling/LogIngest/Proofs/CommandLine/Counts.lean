import LogIngest.CommandLine.Run
import LogIngest.Proofs.Files.Texts
import LogIngest.Proofs.Parser.Dating
import LogIngest.Proofs.Pool.Lifetime

/-!
What the commands count that parse entries. One parses each entry as soon as it has read its line; the other
reads all lines first and leaves their entries to a pool. Main statement: on the same files both count the entries
of the lines that are neither blank nor malformed, and what becomes of each.
-/

namespace LogIngest.CommandLine

open Calendar (Instant)
open Files (Located filledLines textLines)

/-! ### Entries of lines -/

/-- The entries that lines hold, if each of them comes in at some time. Blank lines hold none, and malformed ones
do not either. -/
inductive Hold (stamp : Option Stamp) : List String → List RawEntry → Prop where
  | none : Hold stamp [] []
  | blank {line : String} {lines : List String} {entries : List RawEntry} (hBlank : blank line = true)
    (rest : Hold stamp lines entries) : Hold stamp (line :: lines) entries
  | malformed {line : String} {lines : List String} {entries : List RawEntry} {now : Instant}
    {fault : Json.Fault} (hFault : RawEntry.ofLine stamp now line = .error fault)
    (rest : Hold stamp lines entries) : Hold stamp (line :: lines) entries
  | entry {line : String} {lines : List String} {entries : List RawEntry} {now : Instant} {entry : RawEntry}
    (hSome : LogIngest.blank line = false) (hEntry : RawEntry.ofLine stamp now line = .ok entry)
    (rest : Hold stamp lines entries) : Hold stamp (line :: lines) (entry :: entries)

/-- The entries of the lines that were read and are not blank. -/
def entriesOf (stamp : Option Stamp) (now : Instant) (lines : List (Located String)) : List RawEntry :=
  ((lines.filter fun line => !blank line.value).map (decodeLine stamp now)).filterMap DecodedLine.entry?

/-- A line has an entry unless it is malformed. -/
theorem entry?_decodeLine (stamp : Option Stamp) (now : Instant) (line : Located String) :
    DecodedLine.entry? (decodeLine stamp now line) = (RawEntry.ofLine stamp now line.value).toOption := by
  simp only [DecodedLine.entry?, decodeLine, Located.map]
  cases RawEntry.ofLine stamp now line.value <;> rfl

/-- The entries of lines are those that the lines hold. -/
theorem hold_entriesOf (stamp : Option Stamp) (now : Instant) (lines : List (Located String)) :
    Hold stamp (lines.map Located.value) (entriesOf stamp now lines) := by
  induction lines with
  | nil => exact .none
  | cons line lines ih =>
      rw [List.map_cons, entriesOf, List.filter_cons]
      cases hBlank : blank line.value with
      | true => exact .blank hBlank ih
      | false =>
          rw [Bool.not_false, if_pos rfl, List.map_cons, List.filterMap_cons, entry?_decodeLine]
          cases hLine : RawEntry.ofLine stamp now line.value with
          | error fault => exact .malformed hLine ih
          | ok entry => exact .entry hBlank hLine ih

/-! ### Entries that come in at other times -/

variable {config : RepositoryConfig} {repository : Repository} {stamp : Option Stamp}

/-- Whether a line holds an entry does not depend on when it comes in, and neither does how the entry counts. -/
theorem countsAs_ofLine (hBuild : Repository.build {} config = .ok repository) {now : Instant} {line : String}
    {entry : RawEntry} (h : RawEntry.ofLine stamp now line = .ok entry) (later : Instant) :
    ∃ other, RawEntry.ofLine stamp later line = .ok other ∧
      (repository.parse entry).CountsAs (repository.parse other) := by
  cases stamp with
  | none => exact ⟨entry, h, .refl _⟩
  | some stamp =>
      obtain rfl := Except.ok.inj h
      exact ⟨_, rfl, Repository.countsAs_stamp hBuild rfl stamp line now later⟩

/-- The same lines count alike whenever their entries come in. -/
theorem Hold.countsAs (hBuild : Repository.build {} config = .ok repository) {lines : List String}
    {entries others : List RawEntry} (h : Hold stamp lines entries) (hOther : Hold stamp lines others) :
    List.Forall₂ Outcome.CountsAs (entries.map repository.parse) (others.map repository.parse) := by
  induction h generalizing others with
  | none =>
      cases hOther
      exact .nil
  | blank hBlank _ ih =>
      cases hOther with
      | blank _ rest => exact ih rest
      | malformed _ rest => exact ih rest
      | entry hSome _ _ => cases hBlank.symm.trans hSome
  | malformed hFault _ ih =>
      cases hOther with
      | blank _ rest => exact ih rest
      | malformed _ rest => exact ih rest
      | entry _ hEntry _ =>
          obtain ⟨_, hSame, -⟩ := countsAs_ofLine hBuild hEntry _
          cases hFault.symm.trans hSame
  | entry hSome hEntry _ ih =>
      cases hOther with
      | blank hBlank _ => cases hBlank.symm.trans hSome
      | malformed hFault _ =>
          obtain ⟨_, hSame, -⟩ := countsAs_ofLine hBuild hEntry _
          cases hFault.symm.trans hSame
      | entry _ hLater rest =>
          obtain ⟨_, hSame, hCounts⟩ := countsAs_ofLine hBuild hEntry _
          obtain rfl := Except.ok.inj (hSame.symm.trans hLater)
          exact .cons hCounts (ih rest)

/-- Whenever lines come in, their entries have the same counts. -/
theorem Hold.untimed_ofOutcomes (hBuild : Repository.build {} config = .ok repository) {lines : List String}
    {entries others : List RawEntry} (h : Hold stamp lines entries) (hOther : Hold stamp lines others) :
    (Statistics.ofOutcomes (entries.map repository.parse)).untimed =
      (Statistics.ofOutcomes (others.map repository.parse)).untimed := by
  refine Outcome.CountsAs.untimed_recordAll ?_ rfl
  rw [List.forall₂_map_left_iff, List.forall₂_map_right_iff]
  exact h.countsAs hBuild hOther

/-! ### Line by line -/

/-- Times do not count. -/
theorem countsAs_timed (outcome : Outcome) (elapsed : Duration) : (outcome.timed elapsed).CountsAs outcome := by
  cases outcome with
  | ok result => exact .stored rfl rfl
  | error reason => exact .skipped reason

/-- What is counted along the lines are the outcomes of their entries. -/
theorem untimed_foldl_count (parse : RawEntry → Outcome) (elapsed : Nat → Duration) (before : Nat)
    (lines : List DecodedLine) {statistics others : Statistics} (h : statistics.untimed = others.untimed) :
    ((parseLines parse elapsed before lines).foldl LineResult.count statistics).untimed =
      (others.recordAll ((lines.filterMap DecodedLine.entry?).map fun entry => (parse entry, 0))).untimed := by
  induction lines generalizing before statistics others with
  | nil => exact h
  | cons line lines ih =>
      rw [parseLines, List.filterMap_cons, DecodedLine.entry?]
      cases line.value with
      | error reason => exact ih before h
      | ok entry => exact ih (before + 1) ((countsAs_timed (parse entry) (elapsed before)).untimed_record h _ _)

/-- Line by line, the outcomes of all entries are counted. -/
theorem untimed_statistics_parseLines (parse : RawEntry → Outcome) (elapsed : Nat → Duration)
    (lines : List DecodedLine) :
    (ParseOptions.statistics (parseLines parse elapsed 0 lines)).untimed =
      (Statistics.ofOutcomes ((lines.filterMap DecodedLine.entry?).map parse)).untimed := by
  rw [Statistics.ofOutcomes, List.map_map]
  exact untimed_foldl_count parse elapsed 0 lines rfl

/-! ### All lines first -/

/-- Whatever the schedule of a run, it counts the outcomes of its entries. -/
theorem untimed_of_returns (hBuild : Repository.build {} config = .ok repository) {settings : Pool.Settings}
    {pool : Pool} (hPool : Pool.build {} config settings = .ok pool) {entries : List RawEntry} {processors : Nat}
    {result : Except SetupError (Pool.Report × Pool)} (h : pool.Returns entries processors result) :
    ∃ report, result = .ok (report, pool.absorb report) ∧
      report.statistics.untimed = (Statistics.ofOutcomes (entries.map repository.parse)).untimed := by
  obtain ⟨_, hSame, hTerms⟩ := Pool.terms_of_build hPool
  obtain rfl := Except.ok.inj (hBuild.symm.trans hSame)
  obtain ⟨report, hReport, hSequential⟩ := h.sequential hTerms
  refine ⟨report, hReport, (congrArg Pool.Report.statistics hSequential).trans ?_⟩
  rw [Statistics.ofOutcomes, List.map_map]
  exact congrArg Statistics.untimed (Pool.State.statistics_sequential repository.parse entries)

/-- A pool counts the outcomes of all entries, and never fails. -/
theorem StatsOptions.exists_statistics (hBuild : Repository.build {} config = .ok repository)
    (options : StatsOptions) (environment : Environment) (entries : List RawEntry) :
    ∃ statistics, options.statistics environment config entries = .ok statistics ∧
      statistics.untimed = (Statistics.ofOutcomes (entries.map repository.parse)).untimed := by
  obtain ⟨pool, hPool⟩ : ∃ pool, Pool.build {} config { workers := options.workers } = .ok pool := by
    rw [Pool.build, hBuild]
    exact ⟨_, rfl⟩
  have hReturns := pool.returns_run entries environment.processors environment.elapsed
  obtain ⟨report, hRun, hCounts⟩ := untimed_of_returns hBuild hPool hReturns
  refine ⟨report.statistics, ?_, hCounts⟩
  rw [StatsOptions.statistics, hPool]
  simp only [bind, Except.bind, Except.mapError, hRun]
  rfl

/-! ### The two commands on the same files -/

/-- What the commands are given: a repository that can be built, and files that hold texts. -/
structure Environment.Provides (environment : Environment) (path : String) (arguments : List String)
    (config : RepositoryConfig) (repository : Repository) (files : List String) (contents : String → String) :
    Prop where
  loads : environment.config path = .ok config
  starts : Repository.build {} config = .ok repository
  expands : environment.files arguments = .ok files
  reads : ∀ file ∈ files, environment.read file = .ok (contents file).toUTF8

/-- The lines of texts in files, one file after another. -/
def linesOf (contents : String → String) (files : List String) : List String :=
  files.flatMap fun file => textLines (contents file)

/-- What the command that parses has counted in the end. -/
def ParseOptions.counted (options : ParseOptions) (environment : Environment) (repository : Repository)
    (files : List String) : Statistics :=
  statistics
    (parseLines repository.parse environment.elapsed 0 (readEntries environment options.stamp files).items)

/-- A command that parses line by line and one that leaves all entries to a pool count some entries, each of them
once. The second one counts the same on every schedule of the pool. -/
structure CountAlike (parse : ParseOptions) (stats : StatsOptions) (first second : Environment)
    (config : RepositoryConfig) (repository : Repository) (files : List String) (entries : List RawEntry) :
    Prop where
  parsed : (parse.counted first repository files).untimed =
    (Statistics.ofOutcomes (entries.map repository.parse)).untimed
  total : (parse.counted first repository files).total = entries.length
  reported : files ≠ [] → (parse.run first).failure = none ∧
    ∃ complaints, (parse.run first).errors =
      complaints ++ [(parse.counted first repository files).statusLine]
  summarised : ∃ statistics,
    stats.statistics second config ((readEntries second stats.stamp files).items.filterMap DecodedLine.entry?) =
        .ok statistics ∧
      statistics.untimed = (parse.counted first repository files).untimed ∧
      (files ≠ [] → (stats.run second).failure = none ∧
        ∃ malformed, (stats.run second).output = stats.statisticsLines statistics malformed)
  scheduled : ∀ pool, Pool.build {} config { workers := stats.workers } = .ok pool → ∀ processors result,
    pool.Returns ((readEntries second stats.stamp files).items.filterMap DecodedLine.entry?) processors result →
      ∃ report, result = .ok (report, pool.absorb report) ∧
        report.statistics.untimed = (parse.counted first repository files).untimed
  noFiles : files = [] → parse.run first = .noFiles ∧ stats.run second = .noFiles

namespace Environment.Provides

variable {environment : Environment} {path : String} {arguments files : List String}
  {contents : String → String}

/-- Files that can be read are read to their ends. -/
theorem fault_readEntries (h : environment.Provides path arguments config repository files contents)
    (stamp : Option Stamp) : (readEntries environment stamp files).fault = none := by
  rw [readEntries, Files.readLines_toUTF8 h.reads]
  rfl

/-- The entries that are read are those of the lines of the files. -/
theorem hold_readEntries (h : environment.Provides path arguments config repository files contents)
    (stamp : Option Stamp) : Hold stamp (linesOf contents files)
      ((readEntries environment stamp files).items.filterMap DecodedLine.entry?) := by
  have hFilled : (files.flatMap fun file => filledLines file (contents file)) =
      (files.flatMap fun file => Files.numbered file (textLines (contents file))).filter
        fun line => !blank line.value :=
    List.filter_flatMap.symm
  have hLines : (files.flatMap fun file => Files.numbered file (textLines (contents file))).map Located.value =
      linesOf contents files := by
    simp only [linesOf, List.map_flatMap, Files.map_value_numbered]
  rw [readEntries, Files.readLines_toUTF8 h.reads, ← hLines]
  simp only [Files.Readout.map, hFilled]
  exact hold_entriesOf stamp environment.now _

/-- A command on such files gets its repository and its files. -/
theorem prepare (options : ParseOptions)
    (h : environment.Provides options.config options.files config repository files contents) :
    options.prepare environment = .ok (repository, files) := by
  rw [ParseOptions.prepare, h.loads]
  simp only [bind, Except.bind, h.starts, Except.mapError, h.expands]
  rfl

/-- Parsing line by line ends with the line of statistics, unless there are no files. -/
theorem run_parse (options : ParseOptions)
    (h : environment.Provides options.config options.files config repository files contents) :
    (files = [] → options.run environment = .noFiles) ∧
      (files ≠ [] → (options.run environment).failure = none ∧
        ∃ complaints, (options.run environment).errors =
          complaints ++ [(options.counted environment repository files).statusLine]) := by
  have hPrepare := prepare options h
  have hFault := h.fault_readEntries options.stamp
  cases files with
  | nil =>
      refine ⟨fun _ => ?_, fun hSome => absurd rfl hSome⟩
      simp only [ParseOptions.run, hPrepare]
  | cons file files =>
      refine ⟨nofun, fun _ => ?_⟩
      simp only [ParseOptions.run, hPrepare, ParseOptions.transcript, hFault]
      exact ⟨rfl, _, rfl⟩

/-- Parsing in a pool prints the statistics, unless there are no files. -/
theorem run_stats (options : StatsOptions)
    (h : environment.Provides options.config options.files config repository files contents)
    {statistics : Statistics}
    (hStatistics : options.statistics environment config
      ((readEntries environment options.stamp files).items.filterMap DecodedLine.entry?) = .ok statistics) :
    (files = [] → options.run environment = .noFiles) ∧
      (files ≠ [] → (options.run environment).failure = none ∧
        ∃ malformed, (options.run environment).output = options.statisticsLines statistics malformed) := by
  have hPrepare : options.prepare environment = .ok (config, files) := by
    rw [StatsOptions.prepare, h.loads]
    simp only [bind, Except.bind, h.expands]
    rfl
  have hFault := h.fault_readEntries options.stamp
  cases files with
  | nil =>
      refine ⟨fun _ => ?_, fun hSome => absurd rfl hSome⟩
      simp only [StatsOptions.run, hPrepare]
  | cons file files =>
      refine ⟨nofun, fun _ => ?_⟩
      simp only [StatsOptions.run, hPrepare, hFault, hStatistics]
      exact ⟨trivial, _, rfl⟩

/-- On the same files both commands count the same, whenever their lines come in: the entries that the lines
hold. -/
theorem counts_alike (h : environment.Provides path arguments config repository files contents)
    (stamp : Option Stamp) (listing : Listing) (limit : Option Nat) (workers : Nat) (asJson : Bool)
    (later : Instant) (processors : Nat) (elapsed : Nat → Duration) :
    (∃ entries, Hold stamp (linesOf contents files) entries) ∧
      ∀ entries, Hold stamp (linesOf contents files) entries →
        CountAlike { config := path, files := arguments, stamp, listing, limit }
          { config := path, files := arguments, stamp, workers, asJson } environment
          { environment with now := later, processors, elapsed } config repository files entries := by
  refine ⟨⟨_, h.hold_readEntries stamp⟩, fun entries hHold => ?_⟩
  have hLater : Environment.Provides { environment with now := later, processors, elapsed } path arguments config
      repository files contents := ⟨h.loads, h.starts, h.expands, h.reads⟩
  have hParsed : (ParseOptions.counted { config := path, files := arguments, stamp, listing, limit } environment
      repository files).untimed = (Statistics.ofOutcomes (entries.map repository.parse)).untimed := by
    rw [ParseOptions.counted, untimed_statistics_parseLines]
    exact (h.hold_readEntries stamp).untimed_ofOutcomes h.starts hHold
  have hBatched := ((hLater.hold_readEntries stamp).untimed_ofOutcomes h.starts hHold).trans hParsed.symm
  obtain ⟨hNone, hReported⟩ := run_parse { config := path, files := arguments, stamp, listing, limit } h
  obtain ⟨statistics, hStatistics, hCounts⟩ := StatsOptions.exists_statistics h.starts
    { config := path, files := arguments, stamp, workers, asJson } _
    ((readEntries { environment with now := later, processors, elapsed } stamp files).items.filterMap
      DecodedLine.entry?)
  obtain ⟨hNoneLater, hSummary⟩ := run_stats _ hLater hStatistics
  refine ⟨hParsed, ?_, hReported, ⟨statistics, hStatistics, hCounts.trans hBatched, hSummary⟩, ?_, ?_⟩
  · have hTotal := congrArg Statistics.total hParsed
    simpa [Statistics.untimed, Statistics.total_ofOutcomes] using hTotal
  · intro pool hPool processors result hReturns
    obtain ⟨report, hResult, hReport⟩ := untimed_of_returns h.starts hPool hReturns
    exact ⟨report, hResult, hReport.trans hBatched⟩
  · intro hFiles
    exact ⟨hNone hFiles, hNoneLater hFiles⟩

end Environment.Provides

/-! ### Bare messages of a web server -/

/-- A repository that reads a status from the second token of messages. -/
def webConfig : String :=
  "\x7b\"name\":\"web\",\"parsers\":[\x7b\"name\":\"access\",\"parser\":\"delimited\"," ++
    "\"properties\":\x7b\"delimiter\":\"|\"\x7d,\"fields\":[\x7b\"name\":\"status\"," ++
    "\"data_type\":\"integer\",\"properties\":\x7b\"position\":\"2\"\x7d\x7d]\x7d]\x7d"

/-- Two messages with a blank line between them; the second one has no status, and its line no end. -/
def webLines : String :=
  "GET|200\r\n \nGET"

def newYear : Instant where
  date := (Calendar.Date.of? 2024 1 1).get rfl
  clock := (Calendar.Clock.of? 0 0 0 0).get rfl

def leapDay : Instant where
  date := (Calendar.Date.of? 2024 2 29).get rfl
  clock := (Calendar.Clock.of? 12 34 56 789000000).get rfl

def webEnvironment : Environment where
  tree := fun _ => {}
  read := fun path =>
    if path = "web.json" then .ok webConfig.toUTF8
    else if path = "web.log" then .ok webLines.toUTF8
    else .error .missing
  now := newYear

/-- What is known of the repository in the file of the configuration is known of that with which the commands
work. -/
theorem exists_webRepository {α : Type} {property : Repository → α} {value : α}
    (h : ((RepositoryConfig.ofText webConfig).toOption.bind fun config =>
      (Repository.build {} config).toOption.map property) = some value) :
    ∃ config repository,
      webEnvironment.Provides "web.json" ["web.log"] config repository ["web.log"] (fun _ => webLines) ∧
        property repository = value := by
  obtain ⟨config, hConfig, hStarts⟩ := Option.bind_eq_some_iff.mp h
  obtain ⟨repository, hRepository, hProperty⟩ := Option.map_eq_some_iff.mp hStarts
  have hLoads : webEnvironment.config "web.json" = .ok config := by
    have hText : String.fromUTF8? webConfig.toUTF8 = some webConfig := dif_pos webConfig.isValidUTF8
    simp only [Environment.config, webEnvironment, if_true, hText, eq_ok_of_toOption hConfig]
    rfl
  refine ⟨config, repository, ⟨hLoads, eq_ok_of_toOption hRepository, rfl, ?_⟩, hProperty⟩
  rintro file hFile
  obtain rfl := List.mem_singleton.mp hFile
  rfl

/-- The entries are counted alike, though the commands are run on different days. -/
theorem Environment.Provides.counts_alike_webEnvironment :
    ∃ config repository entries,
      webEnvironment.Provides "web.json" ["web.log"] config repository ["web.log"] (fun _ => webLines) ∧
        Hold (some standardStamp) (linesOf (fun _ => webLines) ["web.log"]) entries ∧ entries.length = 2 ∧
        CountAlike
          { config := "web.json", files := ["web.log"], stamp := some standardStamp, listing := .json,
            limit := some 0 }
          { config := "web.json", files := ["web.log"], stamp := some standardStamp, workers := 3, asJson := true }
          webEnvironment { webEnvironment with now := leapDay, processors := 2 } config repository ["web.log"]
          entries := by
  have hStarts : ((RepositoryConfig.ofText webConfig).toOption.bind fun config =>
      (Repository.build {} config).toOption.map fun repository => repository.parsers.map EntryParser.name) =
        some ["access"] := by
    decide +kernel
  obtain ⟨config, repository, hProvides, -⟩ := exists_webRepository hStarts
  have hLines : linesOf (fun _ => webLines) ["web.log"] = ["GET|200", " ", "GET"] := by decide +kernel
  -- a message that is parsed on one day stands beside one that is parsed on another
  have hHold : Hold (some standardStamp) (linesOf (fun _ => webLines) ["web.log"])
      [standardStamp.entry newYear "GET|200", standardStamp.entry leapDay "GET"] := by
    rw [hLines]
    exact .entry (by decide) rfl (.blank (by decide) (.entry (by decide) rfl .none))
  exact ⟨config, repository, _, hProvides, hHold, rfl,
    (hProvides.counts_alike (some standardStamp) .json (some 0) 3 true leapDay 2 fun _ => 0).2 _ hHold⟩

end LogIngest.CommandLine

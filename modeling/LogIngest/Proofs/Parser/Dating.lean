import LogIngest.Proofs.Calendar.Timestamps
import LogIngest.Proofs.Parser.Envelopes
import LogIngest.Proofs.Repository.Routing
import LogIngest.Proofs.Statistics.Counts

/-!
Entries that differ in their timestamps alone. Main statement: in every strategy the stages of parsing do the
same to a draft with another timestamp, so that of bare messages with one stamp the same is made, up to their
timestamps, whenever they come in; in particular they count alike.
-/

namespace LogIngest

namespace Draft

/-- The draft with another timestamp. -/
def dated (draft : Draft) (timestamp : Calendar.Instant) : Draft :=
  { draft with timestamp }

/-- Fields are stored alike at any time. -/
theorem storeAll_dated (draft : Draft) (timestamp : Calendar.Instant) (fields : List (String × FieldValue)) :
    (draft.dated timestamp).storeAll fields = (draft.storeAll fields).dated timestamp := by
  induction fields generalizing draft with
  | nil => rfl
  | cons pair rest ih => exact ih (draft.store pair.1 pair.2)

end Draft

/-- A stage of parsing heeds no timestamp. -/
def Dateless (stage : Draft → Except SkipReason Draft) : Prop :=
  ∀ draft timestamp, stage (draft.dated timestamp) = (stage draft).map (·.dated timestamp)

namespace Dateless

theorem ok : Dateless .ok := by
  intro draft timestamp
  rfl

theorem error (reason : SkipReason) : Dateless fun _ => .error reason := by
  intro draft timestamp
  rfl

/-- Storing fields does not look at the timestamp. -/
theorem storeAll (fields : List (String × FieldValue)) : Dateless fun draft => .ok (draft.storeAll fields) := by
  intro draft timestamp
  exact congrArg Except.ok (draft.storeAll_dated timestamp fields)

/-- Neither do two steps that do not. -/
theorem andThen {first second : Draft → Except SkipReason Draft} (hFirst : Dateless first)
    (hSecond : Dateless second) : Dateless fun draft => first draft >>= second := by
  intro draft timestamp
  simp only [hFirst draft timestamp]
  cases first draft with
  | error reason => rfl
  | ok between => exact hSecond between timestamp

variable {policy : ErrorPolicy}

/-- Storing what was read does not look at it, under any policy. -/
theorem storeRead (read : Except String (List (String × FieldValue))) :
    Dateless fun draft => policy.storeRead draft read := by
  cases read with
  | ok fields => exact storeAll fields
  | error reason =>
      cases policy with
      | skipField => exact error _
      | skipEntry => exact error _
      | ignoreError => exact ok

/-- Applying outcomes does not look at it, under any policy. -/
theorem applyFields (outcomes : List (String × Except FieldError FieldValue)) :
    Dateless fun draft => policy.applyFields draft outcomes := by
  cases policy with
  | skipField =>
      simp only [ErrorPolicy.applyFields_skipField]
      intro draft timestamp
      have hStored := draft.storeAll_dated timestamp (valuesOf outcomes)
      exact congrArg (fun stored => Except.ok (Draft.note stored (failuresOf outcomes))) hStored
  | skipEntry =>
      simp only [ErrorPolicy.applyFields_skipEntry]
      cases failuresOf outcomes with
      | nil => exact storeAll (valuesOf outcomes)
      | cons failure rest => exact error _
  | ignoreError =>
      simp only [ErrorPolicy.applyFields_ignoreError]
      exact storeAll (valuesOf outcomes)

end Dateless

namespace Strategy

variable {repository : RepositoryConfig} {parser : ParserConfig} {tokenizer : Tokenizer}
  {built : EntryParser}

/-- No strategy looks at the timestamp when it extracts fields. -/
theorem dateless_of_build {strategy : Strategy}
    (hBuild : strategy.build repository parser tokenizer = .ok built) (message : String) :
    Dateless (built.extract message) := by
  cases strategy with
  | default =>
      obtain ⟨core, -, rfl⟩ := map_eq_ok hBuild
      exact .ok
  | delimited =>
      obtain ⟨format, core, -, -, rfl⟩ := build_delimited_eq_ok_iff.mp hBuild
      exact .applyFields (format.outcomes message)
  | regex =>
      obtain ⟨format, core, -, -, rfl⟩ := build_regex_eq_ok_iff.mp hBuild
      exact .applyFields (format.outcomes message)
  | json =>
      obtain ⟨hints, core, -, -, rfl⟩ := build_json_eq_ok_iff.mp hBuild
      have hExtract : (hints.toParser core).extract message =
          fun draft => core.policy.storeRead draft (hints.members message) := by
        funext draft
        exact hints.extract_eq core.policy message draft
      rw [hExtract]
      exact .storeRead (hints.members message)

end Strategy

/-! ### Entries with another timestamp -/

namespace RawEntry

/-- The entry with another timestamp. -/
def dated (entry : RawEntry) (timestamp : String) : RawEntry :=
  { entry with timestamp }

variable {entry : RawEntry} {timestamp : String} {first second : Calendar.Instant}

/-- A timestamp that can be read is not blank, so that another part is the first one that is. -/
theorem firstBlank?_dated (h : Calendar.Timestamp.read? entry.timestamp.toList = some first)
    (hOther : Calendar.Timestamp.read? timestamp.toList = some second) :
    (entry.dated timestamp).firstBlank? = entry.firstBlank? := by
  have hFilled : blank entry.timestamp = false := Calendar.Timestamp.isBlank_of_read? h
  have hOtherFilled : blank timestamp = false := Calendar.Timestamp.isBlank_of_read? hOther
  simp only [firstBlank?, List.find?_cons, List.find?_nil, argument, dated, hFilled, hOtherFilled]

/-- An entry with another valid timestamp passes the same checks. -/
theorem checked_dated (h : Calendar.Timestamp.read? entry.timestamp.toList = some first)
    (hOther : Calendar.Timestamp.read? timestamp.toList = some second) :
    (entry.dated timestamp).checked = entry.checked.map fun _ => second := by
  rw [checked, firstBlank?_dated h hOther, checked]
  cases entry.firstBlank? with
  | some argument => rfl
  | none =>
      have hDated : Calendar.Timestamp.read? (entry.dated timestamp).timestamp.toList = some second := hOther
      simp only [h, hDated]
      rfl

end RawEntry

/-- The result with another timestamp. -/
def Result.dated (result : Result) (timestamp : Calendar.Instant) : Result :=
  { result with entry := { result.entry with timestamp } }

/-- Counts do not depend on the timestamp of an entry. -/
theorem Outcome.countsAs_dated (outcome : Outcome) (timestamp : Calendar.Instant) :
    outcome.CountsAs (outcome.map (·.dated timestamp)) := by
  cases outcome with
  | ok result => exact .stored rfl rfl
  | error reason => exact .skipped reason

/-- A parser that heeds no timestamp makes the same of an entry with any timestamp that can be read. -/
theorem EntryParser.parse_dated {parser : EntryParser} (hExtract : ∀ message, Dateless (parser.extract message))
    {entry : RawEntry} {timestamp : String} {first second : Calendar.Instant}
    (h : Calendar.Timestamp.read? entry.timestamp.toList = some first)
    (hOther : Calendar.Timestamp.read? timestamp.toList = some second) :
    parser.parse (entry.dated timestamp) = (parser.parse entry).map (·.dated second) := by
  have hStages : Dateless (parser.stages entry) :=
    (Dateless.storeRead entry.given).andThen (hExtract entry.message)
  rw [parse_eq_stages, parse_eq_stages, RawEntry.checked_dated h hOther]
  cases entry.checked with
  | error reason => rfl
  | ok checked =>
      have hDated : parser.stages (entry.dated timestamp) { timestamp := second } =
          (parser.stages entry { timestamp := checked }).map (·.dated second) :=
        hStages { timestamp := checked } second
      simp only [Except.map, hDated]
      cases parser.stages entry { timestamp := checked } <;> rfl

/-! ### Bare messages -/

namespace Repository

variable {registry : Registry} {config : RepositoryConfig} {repository : Repository}

/-- All the parsers of a repository without registered strategies heed no timestamp. -/
theorem dateless_select (h : build registry config = .ok repository) (hNone : registry.extensions = ∅)
    (source host message : String) : Dateless ((repository.select source host).extract message) := by
  obtain ⟨hParsers, hFallback⟩ := parsers_of_build h
  rw [select]
  cases hFound : repository.parsers.find? (·.appliesTo source host) with
  | none =>
      rw [Option.getD_none, hFallback]
      exact Strategy.dateless_of_build (Registry.build_fallback registry config.name config.maxKeywords) message
  | some parser =>
      obtain ⟨settings, -, hBuild⟩ := exists_mem_of_mapM_eq_ok hParsers (List.mem_of_find?_eq_some hFound)
      have hExtension : registry.extension? settings.strategy = none := by
        rw [Registry.extension?, hNone]
        rfl
      simp only [Registry.build, hExtension] at hBuild
      split at hBuild
      · exact Strategy.dateless_of_build hBuild message
      · cases hBuild

/-- Of two bare messages with one stamp the same is made, whenever they come in. -/
theorem parse_stamp (h : build registry config = .ok repository) (hNone : registry.extensions = ∅)
    (stamp : Stamp) (message : String) (now later : Calendar.Instant) :
    repository.parse (stamp.entry later message) =
      (repository.parse (stamp.entry now message)).map
        (·.dated { later with clock := later.clock.wholeMillis }) := by
  have hExtract := dateless_select h hNone stamp.source stamp.host
  have hNow : Calendar.Timestamp.read? (stamp.entry now message).timestamp.toList = some _ :=
    Calendar.Timestamp.read?_write_wholeMillis now
  have hDated := EntryParser.parse_dated hExtract hNow (Calendar.Timestamp.read?_write_wholeMillis later)
  exact hDated

theorem countsAs_stamp (h : build registry config = .ok repository) (hNone : registry.extensions = ∅)
    (stamp : Stamp) (message : String) (now later : Calendar.Instant) :
    (repository.parse (stamp.entry now message)).CountsAs (repository.parse (stamp.entry later message)) := by
  rw [parse_stamp h hNone stamp message now later]
  exact Outcome.countsAs_dated _ _

end Repository
end LogIngest

import LogIngest.Proofs.Fallible
import LogIngest.Proofs.Parser.Drafts

/-!
The three policies compared. A parser that finds fields one by one is the same under all policies but for
what it does about failures. Main statement: what it makes of an entry when failures are noted decides
what it makes of the entry when they reject it and when they are forgotten.
-/

namespace LogIngest

namespace EntryParser

/-- An entry is prepared, fields are looked for in its message, and the draft is finished. -/
theorem parse_eq (parser : EntryParser) (entry : RawEntry) :
    parser.parse entry =
      match parser.core.prepare entry with
      | .error reason => .error reason
      | .ok draft => (parser.extract entry.message draft).map (parser.core.finish entry) := by
  unfold parse
  cases parser.core.prepare entry with
  | error reason => rfl
  | ok draft =>
      cases hExtracted : parser.extract entry.message draft with
      | error reason => simp only [bind, Except.bind, Except.map, hExtracted]
      | ok extracted =>
          simp only [bind, Except.bind, Except.map, hExtracted]
          rfl

/-- A parser that applies the fields it finds in a message one by one. -/
def ofOutcomes (core : ParserCore)
    (outcomes : (message : String) → List (String × Except FieldError FieldValue)) : EntryParser where
  core := core
  extract message draft := core.policy.applyFields draft (outcomes message)

/-- An entry is prepared, the outcomes of its fields are applied, and the entry is finished. -/
theorem parse_ofOutcomes (core : ParserCore)
    (outcomes : (message : String) → List (String × Except FieldError FieldValue))
    (entry : RawEntry) :
    (ofOutcomes core outcomes).parse entry =
      match core.prepare entry with
      | .error reason => .error reason
      | .ok draft =>
        (core.policy.applyFields draft (outcomes entry.message)).map (core.finish entry) :=
  parse_eq (ofOutcomes core outcomes) entry

end EntryParser

/-! ### Parsers under other policies -/

/-- The policy goes into the core as it is, and nothing else depends on it. -/
theorem ParserCore.ofConfig_withPolicy {repository : RepositoryConfig} {parser : ParserConfig}
    {kind : String} {tokenizer : Tokenizer} {core : ParserCore}
    (h : ofConfig repository parser kind tokenizer = .ok core) (policy : ErrorPolicy) :
    ofConfig repository (parser.withPolicy policy) kind tokenizer = .ok (core.withPolicy policy) := by
  have hApplicability : Applicability.ofConfig (parser.withPolicy policy) =
      Applicability.ofConfig parser := rfl
  unfold ofConfig at h ⊢
  rw [hApplicability]
  cases hParser : Applicability.ofConfig parser with
  | error fault =>
      rw [hParser] at h
      cases h
  | ok applicability =>
      rw [hParser] at h
      obtain rfl := Except.ok.inj h
      rfl

/-- The core has the settings of its configuration; the budget of keywords is the parser's own, or else
that of the repository. -/
structure ParserCore.Configured (core : ParserCore) (repository : RepositoryConfig)
    (parser : ParserConfig) (tokenizer : Tokenizer) : Prop where
  name : core.name = parser.name
  policy : core.policy = parser.policy
  maxKeywords : core.maxKeywords = parser.maxKeywords.getD repository.maxKeywords
  tokenizer : core.tokenizer = tokenizer

theorem ParserCore.configured_of_ofConfig {repository : RepositoryConfig} {parser : ParserConfig}
    {kind : String} {tokenizer : Tokenizer} {core : ParserCore}
    (h : ofConfig repository parser kind tokenizer = .ok core) :
    core.Configured repository parser tokenizer := by
  obtain ⟨applicability, -, h⟩ := bind_eq_ok h
  obtain rfl := Except.ok.inj h
  exact ⟨rfl, rfl, rfl, rfl⟩

/-- Two parts are built if each of them is. -/
theorem map_pair_eq_ok_iff {α β γ ε : Type} {first : Except ε α} {second : Except ε β}
    {make : α × β → γ} {made : γ} :
    (do let a ← first; let b ← second; return (a, b)).map make = .ok made ↔
      ∃ a b, first = .ok a ∧ second = .ok b ∧ make (a, b) = made := by
  cases first with
  | error fault => simp [bind, Except.bind, Except.map]
  | ok a =>
      cases second with
      | error fault => simp [bind, Except.bind, Except.map]
      | ok b => simp [bind, Except.bind, Except.map, pure, Except.pure]

namespace Strategy

variable {repository : RepositoryConfig} {parser : ParserConfig} {tokenizer : Tokenizer}
  {built : EntryParser}

/-- A parser by delimiters is built of its format and of what all parsers share. -/
theorem build_delimited_eq_ok_iff :
    delimited.build repository parser tokenizer = .ok built ↔
      ∃ format core, Delimited.ofConfig parser = .ok format ∧
        ParserCore.ofConfig repository parser delimited.id tokenizer = .ok core ∧
        .ofOutcomes core format.outcomes = built :=
  map_pair_eq_ok_iff

/-- A parser by patterns is built in the same way. -/
theorem build_regex_eq_ok_iff :
    regex.build repository parser tokenizer = .ok built ↔
      ∃ format core, Matching.ofConfig parser = .ok format ∧
        ParserCore.ofConfig repository parser regex.id tokenizer = .ok core ∧
        .ofOutcomes core format.outcomes = built :=
  map_pair_eq_ok_iff

/-- The strategies that find fields one by one. -/
inductive Fieldwise : Strategy → Prop where
  | byDelimiter : Fieldwise delimited
  | byPatterns : Fieldwise regex

/-- The fields that a configured parser finds in a message one by one, each with its value or why it has
none. -/
def outcomes (strategy : Strategy) (parser : ParserConfig) (message : String) :
    List (String × Except FieldError FieldValue) :=
  match strategy with
  | delimited => ((Delimited.ofConfig parser).toOption.map (·.outcomes message)).getD []
  | regex => ((Matching.ofConfig parser).toOption.map (·.outcomes message)).getD []
  | _ => []

/-- The outcomes of a configuration are those of its format. -/
theorem outcomes_delimited {format : Delimited} (h : Delimited.ofConfig parser = .ok format) :
    delimited.outcomes parser = format.outcomes := by
  funext message
  simp [outcomes, h, Except.toOption]

theorem outcomes_regex {format : Matching} (h : Matching.ofConfig parser = .ok format) :
    regex.outcomes parser = format.outcomes := by
  funext message
  simp [outcomes, h, Except.toOption]

/-- Parsers of these strategies apply what they find one by one, and are built under every policy if they
are under one. -/
theorem Fieldwise.exists_core {strategy : Strategy} (hStrategy : strategy.Fieldwise)
    (hBuild : strategy.build repository parser tokenizer = .ok built) :
    ∃ core, core.policy = parser.policy ∧ .ofOutcomes core (strategy.outcomes parser) = built ∧
      ∀ policy, strategy.build repository (parser.withPolicy policy) tokenizer =
        .ok (.ofOutcomes (core.withPolicy policy) (strategy.outcomes parser)) := by
  cases hStrategy with
  | byDelimiter =>
      obtain ⟨format, core, hFormat, hCore, hBuilt⟩ := build_delimited_eq_ok_iff.mp hBuild
      rw [outcomes_delimited hFormat]
      refine ⟨core, (ParserCore.configured_of_ofConfig hCore).policy, hBuilt, fun policy => ?_⟩
      have hOther := ParserCore.ofConfig_withPolicy hCore policy
      exact build_delimited_eq_ok_iff.mpr ⟨format, core.withPolicy policy, hFormat, hOther, rfl⟩
  | byPatterns =>
      obtain ⟨format, core, hFormat, hCore, hBuilt⟩ := build_regex_eq_ok_iff.mp hBuild
      rw [outcomes_regex hFormat]
      refine ⟨core, (ParserCore.configured_of_ofConfig hCore).policy, hBuilt, fun policy => ?_⟩
      have hOther := ParserCore.ofConfig_withPolicy hCore policy
      exact build_regex_eq_ok_iff.mpr ⟨format, core.withPolicy policy, hFormat, hOther, rfl⟩

end Strategy

/-! ### Outcomes of an entry -/

namespace EntryParser

/-- An entry that does not pass its checks is rejected by every parser. -/
theorem parse_of_checked_error (parser : EntryParser) {entry : RawEntry} {reason : SkipReason}
    (hChecked : entry.checked = .error reason) : parser.parse entry = .error reason := by
  rw [parse_eq, ParserCore.prepare_eq, hChecked]

variable (core : ParserCore)
  (outcomes : (message : String) → List (String × Except FieldError FieldValue))
  {entry : RawEntry} {timestamp : Calendar.Instant}

section

variable {fields : List (String × FieldValue)} (hChecked : entry.checked = .ok timestamp)
  (hGiven : entry.given = .ok fields)
include hChecked hGiven

/-- Where failures are noted, every value is stored and every failure kept. -/
theorem parse_skipField :
    (ofOutcomes (core.withPolicy .skipField) outcomes).parse entry =
      .ok (core.finish entry
        (((Draft.storeAll { timestamp } fields).storeAll (valuesOf (outcomes entry.message))).note
          (failuresOf (outcomes entry.message)))) := by
  rw [parse_ofOutcomes, ParserCore.prepare_eq, hChecked, hGiven]
  simp only [ParserCore.withPolicy, ErrorPolicy.applyFields_skipField]
  rfl

/-- Where they are forgotten, every value is stored. -/
theorem parse_ignoreError :
    (ofOutcomes (core.withPolicy .ignoreError) outcomes).parse entry =
      .ok (core.finish entry
        ((Draft.storeAll { timestamp } fields).storeAll (valuesOf (outcomes entry.message)))) := by
  rw [parse_ofOutcomes, ParserCore.prepare_eq, hChecked, hGiven]
  simp only [ParserCore.withPolicy, ErrorPolicy.applyFields_ignoreError]
  rfl

/-- Where they reject an entry, the first one does. -/
theorem parse_skipEntry :
    (ofOutcomes (core.withPolicy .skipEntry) outcomes).parse entry =
      match failuresOf (outcomes entry.message) with
      | [] => .ok (core.finish entry
          ((Draft.storeAll { timestamp } fields).storeAll (valuesOf (outcomes entry.message))))
      | failure :: _ => .error (.field failure.field failure.error) := by
  rw [parse_ofOutcomes, ParserCore.prepare_eq, hChecked, hGiven]
  simp only [ParserCore.withPolicy, ErrorPolicy.applyFields_skipEntry]
  cases failuresOf (outcomes entry.message) <;> rfl

end

/-- Where the fields that came with an entry cannot be read, the policy decides. -/
theorem parse_of_given_error {message : String} (hChecked : entry.checked = .ok timestamp)
    (hGiven : entry.given = .error message) (policy : ErrorPolicy) :
    (ofOutcomes (core.withPolicy policy) outcomes).parse entry =
      match policy with
      | .ignoreError =>
        .ok (core.finish entry (Draft.storeAll { timestamp } (valuesOf (outcomes entry.message))))
      | _ => .error (.malformedJson message) := by
  rw [parse_ofOutcomes, ParserCore.prepare_eq, hChecked, hGiven]
  cases policy with
  | skipField => rfl
  | skipEntry => rfl
  | ignoreError =>
      simp only [ParserCore.withPolicy, ErrorPolicy.onJsonError, ErrorPolicy.applyFields_ignoreError]
      rfl

/-- What a stored entry consists of: the fields that came with it, then the values found in its message,
and the failures that the policy has noted. An entry is not stored if one of its failures rejects it. -/
structure Stored (policy : ErrorPolicy) (entry : RawEntry)
    (found : List (String × Except FieldError FieldValue)) (result : Result) : Prop where
  fields : ∃ start : Draft, start.fields = entry.upstream ∧
    result.entry.fields = (start.storeAll (valuesOf found)).fields
  failures : result.failures = if policy = .skipField then failuresOf found else []
  unfailed : policy = .skipEntry → failuresOf found = []

/-- Whatever is stored is what its policy makes of the outcomes. -/
theorem stored_of_parse {result : Result}
    (h : (ofOutcomes core outcomes).parse entry = .ok result) :
    Stored core.policy entry (outcomes entry.message) result := by
  rw [parse_ofOutcomes] at h
  split at h
  · cases h
  · next draft hPrepared =>
      obtain ⟨applied, hApplied, rfl⟩ := map_eq_ok h
      obtain ⟨hUpstream, hNone⟩ := ParserCore.prepare_eq_ok hPrepared
      obtain ⟨hFields, hFailures, hUnfailed⟩ := ErrorPolicy.applyFields_eq_ok hApplied
      rw [hNone, List.nil_append] at hFailures
      exact ⟨⟨draft, hUpstream, hFields⟩, hFailures, hUnfailed⟩

end EntryParser

/-- How the outcomes of one entry under the three policies depend on each other. -/
structure Comparable (noting rejecting ignoring : Outcome) : Prop where
  ignoring_of_ok : ∀ result, noting = .ok result → ignoring = .ok { result with failures := [] }
  rejecting_of_ok : ∀ result, noting = .ok result →
    rejecting = match result.failures with
      | [] => .ok result
      | failure :: _ => .error (.field failure.field failure.error)
  rejecting_of_error : ∀ reason, noting = .error reason → rejecting = .error reason
  ignoring_of_error : ∀ reason, noting = .error reason →
    (∀ message, reason ≠ .malformedJson message) → ignoring = .error reason

namespace Comparable

/-- An entry that is rejected for the same reason under all policies. -/
theorem of_error (reason : SkipReason) :
    Comparable (.error reason) (.error reason) (.error reason) := by
  refine ⟨?_, ?_, ?_, ?_⟩
  · intro result h
    cases h
  · intro result h
    cases h
  · intro other h
    exact h
  · intro other h _
    exact h

/-- An entry whose JSON text is rejected unless errors are ignored. -/
theorem of_malformedJson (message : String) (ignoring : Outcome) :
    Comparable (.error (.malformedJson message)) (.error (.malformedJson message)) ignoring := by
  refine ⟨?_, ?_, ?_, ?_⟩
  · intro result h
    cases h
  · intro result h
    cases h
  · intro other h
    exact h
  · intro other h hOther
    obtain rfl := Except.error.inj h
    exact absurd rfl (hOther message)

end Comparable

/-- The three policies compared for one entry, by cases of the checks before parsing. -/
theorem EntryParser.comparable_ofOutcomes (core : ParserCore)
    (outcomes : (message : String) → List (String × Except FieldError FieldValue))
    (entry : RawEntry) :
    Comparable ((ofOutcomes (core.withPolicy .skipField) outcomes).parse entry)
      ((ofOutcomes (core.withPolicy .skipEntry) outcomes).parse entry)
      ((ofOutcomes (core.withPolicy .ignoreError) outcomes).parse entry) := by
  cases hChecked : entry.checked with
  | error reason =>
      rw [parse_of_checked_error _ hChecked, parse_of_checked_error _ hChecked,
        parse_of_checked_error _ hChecked]
      exact .of_error reason
  | ok timestamp =>
      cases hGiven : entry.given with
      | error message =>
          rw [parse_of_given_error core outcomes hChecked hGiven,
            parse_of_given_error core outcomes hChecked hGiven]
          exact .of_malformedJson message _
      | ok fields =>
          have hNone : ((Draft.storeAll { timestamp } fields).storeAll
              (valuesOf (outcomes entry.message))).failures = [] := by
            rw [Draft.storeAll_failures, Draft.storeAll_failures]
          rw [parse_skipField core outcomes hChecked hGiven,
            parse_skipEntry core outcomes hChecked hGiven,
            parse_ignoreError core outcomes hChecked hGiven]
          refine ⟨?_, ?_, ?_, ?_⟩
          · intro result h
            obtain rfl := Except.ok.inj h
            simp only [ParserCore.finish, hNone, Draft.note]
          · intro result h
            obtain rfl := Except.ok.inj h
            simp only [ParserCore.finish, Draft.note, hNone, List.nil_append]
            cases failuresOf (outcomes entry.message) with
            | nil => rfl
            | cons failure rest => rfl
          · intro reason h
            cases h
          · intro reason h
            cases h

/-- A configuration that can be built can be built under each policy. What the parser makes of an entry
when failures are noted decides what it makes of it under the other policies. -/
theorem Strategy.policies_comparable {strategy : Strategy} (hStrategy : strategy.Fieldwise)
    {repository : RepositoryConfig} {parser : ParserConfig} {tokenizer : Tokenizer}
    {built : EntryParser} (hBuild : strategy.build repository parser tokenizer = .ok built) :
    ∃ noting rejecting ignoring : EntryParser,
      strategy.build repository (parser.withPolicy .skipField) tokenizer = .ok noting ∧
      strategy.build repository (parser.withPolicy .skipEntry) tokenizer = .ok rejecting ∧
      strategy.build repository (parser.withPolicy .ignoreError) tokenizer = .ok ignoring ∧
      ∀ entry, Comparable (noting.parse entry) (rejecting.parse entry) (ignoring.parse entry) := by
  obtain ⟨core, -, -, hPolicies⟩ := hStrategy.exists_core hBuild
  refine ⟨_, _, _, hPolicies .skipField, hPolicies .skipEntry, hPolicies .ignoreError, ?_⟩
  intro entry
  exact EntryParser.comparable_ofOutcomes core (strategy.outcomes parser) entry

/-- A parser of delimited messages that takes a status from the first token. -/
def ParserConfig.statusFirst : ParserConfig where
  name := "access"
  strategy := "delimited"
  properties := Dictionary.insert ∅ Property.delimiter "|"
  fields := [⟨"status", .integer, Dictionary.insert ∅ Property.position "1"⟩]

/-- An entry whose first token is no number. -/
def RawEntry.statusMissing : RawEntry where
  timestamp := "2024-01-15T10:30:00.000Z"
  source := "proxy"
  host := "web-1"
  severity := "info"
  fields := none
  message := "n/a|GET"

theorem Strategy.policies_comparable_statusFirst :
    ∃ built, delimited.build (.named "web") .statusFirst Keywords.words = .ok built ∧
      ∃ noting rejecting ignoring : EntryParser,
        delimited.build (.named "web") (.withPolicy .statusFirst .skipField) Keywords.words =
          .ok noting ∧
        delimited.build (.named "web") (.withPolicy .statusFirst .skipEntry) Keywords.words =
          .ok rejecting ∧
        delimited.build (.named "web") (.withPolicy .statusFirst .ignoreError) Keywords.words =
          .ok ignoring ∧
        (∀ entry, Comparable (noting.parse entry) (rejecting.parse entry) (ignoring.parse entry)) ∧
        ∃ result, noting.parse .statusMissing = .ok result ∧ result.entry.fields.entries = [] ∧
          result.failures = [⟨"status", .invalidNumber "n/a" "integer"⟩] ∧
          rejecting.parse .statusMissing = .error (.field "status" (.invalidNumber "n/a" "integer")) ∧
          ignoring.parse .statusMissing = .ok { result with failures := [] } := by
  obtain ⟨built, hBuild⟩ : ∃ built,
      delimited.build (.named "web") .statusFirst Keywords.words = .ok built := ⟨_, rfl⟩
  obtain ⟨noting, rejecting, ignoring, hNoting, hRejecting, hIgnoring, hComparable⟩ :=
    policies_comparable .byDelimiter hBuild
  refine ⟨built, hBuild, noting, rejecting, ignoring, hNoting, hRejecting, hIgnoring, hComparable, ?_⟩
  obtain ⟨result, hResult, hFields, hFailures⟩ : ∃ result, noting.parse .statusMissing = .ok result ∧
      result.entry.fields.entries = [] ∧
      result.failures = [⟨"status", .invalidNumber "n/a" "integer"⟩] := by
    cases hNoting
    exact ⟨_, rfl, rfl, rfl⟩
  have hRejected := (hComparable .statusMissing).rejecting_of_ok result hResult
  rw [hFailures] at hRejected
  exact ⟨result, hResult, hFields, hFailures, hRejected,
    (hComparable .statusMissing).ignoring_of_ok result hResult⟩

end LogIngest

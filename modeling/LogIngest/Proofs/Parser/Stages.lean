import LogIngest.Proofs.Parser.Policies

/-!
The stages of parsing: after the checks of an entry, the fields that came with it are stored, and then its
message is looked at. Main statement: in every strategy both stages keep to the policy of the
configuration, which says for which reasons they may reject the entry, and neither touches the timestamp.
-/

namespace LogIngest

/-- Storing fields keeps the timestamp. -/
@[simp] theorem Draft.storeAll_timestamp (draft : Draft) (fields : List (String × FieldValue)) :
    (draft.storeAll fields).timestamp = draft.timestamp := by
  induction fields generalizing draft with
  | nil => rfl
  | cons pair rest ih => exact ih (draft.store pair.1 pair.2)

namespace ErrorPolicy

/-- Stores the fields of a JSON object, or does what the policy says when the text is none. -/
def storeRead (policy : ErrorPolicy) (draft : Draft)
    (read : Except String (List (String × FieldValue))) : Except SkipReason Draft :=
  match read with
  | .ok fields => .ok (draft.storeAll fields)
  | .error reason => policy.onJsonError draft reason

/-- A policy governs a stage, in which fields may be found one by one, or not. The timestamp stays as it
is. The entry is rejected for malformed JSON, or, if fields are found one by one and failures are to reject
the entry, for one of them. Where errors are ignored, it is never rejected, and no failure is noted. -/
structure Governs (policy : ErrorPolicy) (fieldwise : Prop)
    (stage : Draft → Except SkipReason Draft) : Prop where
  timestamp : ∀ {draft later}, stage draft = .ok later → later.timestamp = draft.timestamp
  reasons : ∀ {draft reason}, stage draft = .error reason →
    (∃ text, reason = .malformedJson text) ∨
      fieldwise ∧ policy = .skipEntry ∧ ∃ field cause, reason = .field field cause
  ignoring : policy = .ignoreError → ∀ draft,
    ∃ later, stage draft = .ok later ∧ later.failures = draft.failures

variable {policy : ErrorPolicy} {fieldwise : Prop}

/-- A stage that does nothing keeps to every policy. -/
theorem governs_ok : policy.Governs fieldwise .ok := by
  refine ⟨?_, nofun, ?_⟩
  · intro draft later h
    rw [Except.ok.inj h]
  · intro _ draft
    exact ⟨draft, rfl, rfl⟩

/-- Two stages that keep to a policy do so one after the other. -/
theorem Governs.andThen {first second : Draft → Except SkipReason Draft}
    (hFirst : policy.Governs fieldwise first) (hSecond : policy.Governs fieldwise second) :
    policy.Governs fieldwise fun draft => first draft >>= second := by
  refine ⟨?_, ?_, ?_⟩
  · intro draft later h
    obtain ⟨between, hBetween, hLater⟩ := bind_eq_ok h
    rw [hSecond.timestamp hLater, hFirst.timestamp hBetween]
  · intro draft reason h
    cases hBetween : first draft with
    | error earlier =>
        rw [hBetween] at h
        obtain rfl := Except.error.inj h
        exact hFirst.reasons hBetween
    | ok between =>
        rw [hBetween] at h
        exact hSecond.reasons h
  · intro hPolicy draft
    obtain ⟨between, hBetween, hNone⟩ := hFirst.ignoring hPolicy draft
    obtain ⟨later, hLater, hStill⟩ := hSecond.ignoring hPolicy between
    refine ⟨later, ?_, hStill.trans hNone⟩
    rw [hBetween]
    exact hLater

/-- A stage that stores fields keeps to every policy. -/
theorem governs_storeAll (fields : List (String × FieldValue)) :
    policy.Governs fieldwise fun draft => .ok (draft.storeAll fields) := by
  refine ⟨?_, nofun, ?_⟩
  · intro draft later h
    obtain rfl := Except.ok.inj h
    exact Draft.storeAll_timestamp draft fields
  · intro _ draft
    exact ⟨_, rfl, Draft.storeAll_failures draft fields⟩

/-- A stage may reject an entry unless errors are ignored, for a JSON text or for a field. -/
theorem governs_error {reason : SkipReason} (hPolicy : policy ≠ .ignoreError)
    (hReason : (∃ text, reason = .malformedJson text) ∨
      fieldwise ∧ policy = .skipEntry ∧ ∃ field cause, reason = .field field cause) :
    policy.Governs fieldwise fun _ => .error reason := by
  refine ⟨nofun, ?_, fun hIgnore => absurd hIgnore hPolicy⟩
  intro draft rejected h
  obtain rfl := Except.error.inj h
  exact hReason

/-- Storing what was read keeps to the policy, whether it was read or not. -/
theorem governs_storeRead (read : Except String (List (String × FieldValue))) :
    policy.Governs fieldwise fun draft => policy.storeRead draft read := by
  cases read with
  | ok fields => exact governs_storeAll fields
  | error text =>
      -- there is no field to leave out, so noting failures rejects the entry as well
      cases policy with
      | ignoreError => exact governs_ok
      | skipField => exact governs_error nofun (.inl ⟨text, rfl⟩)
      | skipEntry => exact governs_error nofun (.inl ⟨text, rfl⟩)

/-- Applying outcomes keeps to the policy, by induction on the outcomes. -/
theorem governs_applyFields (hFieldwise : fieldwise)
    (outcomes : List (String × Except FieldError FieldValue)) :
    policy.Governs fieldwise fun draft => policy.applyFields draft outcomes := by
  cases policy with
  | skipField =>
      simp only [applyFields_skipField]
      refine ⟨?_, nofun, nofun⟩
      intro draft later h
      obtain rfl := Except.ok.inj h
      exact Draft.storeAll_timestamp draft _
  | skipEntry =>
      simp only [applyFields_skipEntry]
      cases failuresOf outcomes with
      | nil => exact governs_storeAll (valuesOf outcomes)
      | cons failure rest => exact governs_error nofun (.inr ⟨hFieldwise, rfl, _, _, rfl⟩)
  | ignoreError =>
      simp only [applyFields_ignoreError]
      exact governs_storeAll (valuesOf outcomes)

end ErrorPolicy

/-! ### The stages of the strategies -/

/-- The members of a message that is a JSON object, or why it is none. -/
def StringHints.members (hints : StringHints) (message : String) :
    Except String (List (String × FieldValue)) :=
  match Json.Value.read message.toList with
  | .ok (.object members) => .ok (hints.ofJsonMembers members)
  | .ok other =>
    let kind := other.kind
    .error s!"message must be a JSON object, found {kind}"
  | .error fault => .error (fault.message message.toList)

/-- A message that is a document is stored as a whole. -/
theorem StringHints.extract_eq (hints : StringHints) (policy : ErrorPolicy) (message : String)
    (draft : Draft) :
    hints.extract policy message draft = policy.storeRead draft (hints.members message) := by
  unfold extract members
  cases Json.Value.read message.toList with
  | error fault => rfl
  | ok value => cases value <;> rfl

/-- A parser has the settings of its configuration, and its policy governs what it does with messages. -/
structure EntryParser.Conforms (built : EntryParser) (strategy : Strategy)
    (repository : RepositoryConfig) (parser : ParserConfig) (tokenizer : Tokenizer) : Prop where
  settings : built.core.Configured repository parser tokenizer
  governed : ∀ message, parser.policy.Governs strategy.Fieldwise (built.extract message)

namespace Strategy

variable {repository : RepositoryConfig} {parser : ParserConfig} {tokenizer : Tokenizer}
  {built : EntryParser}

/-- A parser of documents is built of its hints and of what all parsers share. -/
theorem build_json_eq_ok_iff :
    json.build repository parser tokenizer = .ok built ↔
      ∃ hints core, StringHints.ofConfig parser = .ok hints ∧
        ParserCore.ofConfig repository parser json.id tokenizer = .ok core ∧
        hints.toParser core = built :=
  map_pair_eq_ok_iff

/-- Every strategy builds a parser that conforms to its configuration. -/
theorem conforms_of_build {strategy : Strategy}
    (hBuild : strategy.build repository parser tokenizer = .ok built) :
    built.Conforms strategy repository parser tokenizer := by
  cases strategy with
  | default =>
      obtain ⟨core, hCore, rfl⟩ := map_eq_ok hBuild
      exact ⟨ParserCore.configured_of_ofConfig hCore, fun _ => ErrorPolicy.governs_ok⟩
  | delimited =>
      obtain ⟨format, core, -, hCore, rfl⟩ := build_delimited_eq_ok_iff.mp hBuild
      have hSettings := ParserCore.configured_of_ofConfig hCore
      refine ⟨hSettings, fun message => ?_⟩
      rw [← hSettings.policy]
      exact ErrorPolicy.governs_applyFields .byDelimiter (format.outcomes message)
  | regex =>
      obtain ⟨format, core, -, hCore, rfl⟩ := build_regex_eq_ok_iff.mp hBuild
      have hSettings := ParserCore.configured_of_ofConfig hCore
      refine ⟨hSettings, fun message => ?_⟩
      rw [← hSettings.policy]
      exact ErrorPolicy.governs_applyFields .byPatterns (format.outcomes message)
  | json =>
      obtain ⟨hints, core, -, hCore, rfl⟩ := build_json_eq_ok_iff.mp hBuild
      have hSettings := ParserCore.configured_of_ofConfig hCore
      refine ⟨hSettings, fun message => ?_⟩
      -- the members of a message are stored like the fields that came with an entry
      have hExtract : (hints.toParser core).extract message =
          fun draft => core.policy.storeRead draft (hints.members message) := by
        funext draft
        exact hints.extract_eq core.policy message draft
      rw [hExtract, ← hSettings.policy]
      exact ErrorPolicy.governs_storeRead (hints.members message)

end Strategy

namespace EntryParser

/-- What becomes of the draft of an entry: the fields that came with it are stored, and its message is
looked at. -/
def stages (parser : EntryParser) (entry : RawEntry) (draft : Draft) : Except SkipReason Draft := do
  let draft ← parser.core.policy.storeRead draft entry.given
  parser.extract entry.message draft

/-- An entry is checked, goes through the stages, and is finished. -/
theorem parse_eq_stages (parser : EntryParser) (entry : RawEntry) :
    parser.parse entry =
      match entry.checked with
      | .error reason => .error reason
      | .ok timestamp => (parser.stages entry { timestamp }).map (parser.core.finish entry) := by
  rw [parse_eq, ParserCore.prepare_eq]
  cases entry.checked with
  | error reason => rfl
  | ok timestamp =>
      unfold stages ErrorPolicy.storeRead
      cases entry.given with
      | ok fields => rfl
      | error reason =>
          simp only [bind, Except.bind]
          cases parser.core.policy.onJsonError { timestamp } reason <;> rfl

theorem Conforms.governs_stages {built : EntryParser} {strategy : Strategy}
    {repository : RepositoryConfig} {parser : ParserConfig} {tokenizer : Tokenizer}
    (h : built.Conforms strategy repository parser tokenizer) (entry : RawEntry) :
    parser.policy.Governs strategy.Fieldwise (built.stages entry) := by
  have hGiven : parser.policy.Governs strategy.Fieldwise
      fun draft => built.core.policy.storeRead draft entry.given := by
    rw [h.settings.policy]
    exact ErrorPolicy.governs_storeRead entry.given
  exact hGiven.andThen (h.governed entry.message)

end EntryParser
end LogIngest

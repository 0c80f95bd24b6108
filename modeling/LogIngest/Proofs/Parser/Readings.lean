import LogIngest.Proofs.Parser.Documents
import LogIngest.Proofs.Parser.SkipReasons

/-!
One object in two places: as the message of an entry, and as the text that comes with it. Main statement: if
no string in a message stands for a date or a whole number, the fields of the entry are the same in both
places, and a text that is no object is refused in both or in none.
-/

namespace LogIngest

open Json (Value member? membersOf?)

namespace StringHints

/-- No string stands for anything else. -/
structure Plain (hints : StringHints) : Prop where
  date : hints.date = none
  long : hints.long = none

variable {hints : StringHints}

theorem Plain.ofString_eq (h : hints.Plain) (s : String) : hints.ofString s = .string s := by
  have hDate : hints.date? s = none := by simp [date?, h.date]
  have hLong : hints.long? s = none := by simp [long?, h.long]
  simp only [ofString, hDate, hLong]

/-! A value is converted part by part, and only strings could differ. -/

mutual

theorem Plain.ofJson_eq (h : hints.Plain) (v : Value) : hints.ofJson v = FieldValue.ofJson v := by
  cases v with
  | null => rfl
  | bool b => rfl
  | number n => rfl
  | string s => exact h.ofString_eq s
  | array items => exact congrArg FieldValue.array (h.ofJsonItems_eq items)
  | object members => exact congrArg FieldValue.object (h.ofJsonMembers_eq members)

theorem Plain.ofJsonItems_eq (h : hints.Plain) (items : List Value) :
    hints.ofJsonItems items = FieldValue.ofJsonItems items := by
  cases items with
  | nil => rfl
  | cons v rest =>
      rw [ofJsonItems, FieldValue.ofJsonItems, h.ofJson_eq v, h.ofJsonItems_eq rest]

theorem Plain.ofJsonMembers_eq (h : hints.Plain) (members : List (String × Value)) :
    hints.ofJsonMembers members = FieldValue.ofJsonMembers members := by
  cases members with
  | nil => rfl
  | cons member rest =>
      obtain ⟨key, v⟩ := member
      rw [ofJsonMembers, FieldValue.ofJsonMembers, h.ofJson_eq v, h.ofJsonMembers_eq rest]

end

theorem plain_of_ofConfig {parser : ParserConfig} (h : ofConfig parser = .ok hints)
    (hDate : parser.properties.setting? Property.datePattern = none)
    (hLong : parser.properties.setting? Property.longSuffix = none) : hints.Plain := by
  simp only [ofConfig, hDate, hLong] at h
  obtain ⟨date, hNoDate, h⟩ := bind_eq_ok h
  obtain ⟨long, hNoLong, h⟩ := bind_eq_ok h
  obtain ⟨format, -, h⟩ := bind_eq_ok h
  obtain rfl := Except.ok.inj h
  exact ⟨(Except.ok.inj hNoDate).symm, (Except.ok.inj hNoLong).symm⟩

end StringHints

/-- What a policy makes of a text that should be an object, in two places. Both entries are stored with its
members, or with none if it is no object and errors are ignored; otherwise both are rejected for it. -/
inductive SameReading (policy : ErrorPolicy) (text : String) : Outcome → Outcome → Prop where
  | stored {result other : Result}
      (accepted : (membersOf? text).isSome = true ∨ policy = .ignoreError)
      (fields : result.entry.fields = other.entry.fields)
      (members : ∀ key, result.entry.fields.get? key = (member? text key).map FieldValue.ofJson)
      (complete : result.failures = []) (otherComplete : other.failures = []) :
      SameReading policy text (.ok result) (.ok other)
  | malformed (refused : membersOf? text = none) (strict : policy ≠ .ignoreError)
      (reason other : String) :
      SameReading policy text (.error (.malformedJson reason)) (.error (.malformedJson other))

section

variable {text : String} {read other : Except String (List (String × FieldValue))}
  {timestamp : Calendar.Instant} {core otherCore : ParserCore} {entry otherEntry : RawEntry}

theorem sameReading_of_object {members : List (String × Value)}
    (hMembers : membersOf? text = some members) (policy : ErrorPolicy) :
    SameReading policy text
      ((policy.storeRead { timestamp } (.ok (fieldsOf FieldValue.ofJson text))).map (core.finish entry))
      ((policy.storeRead { timestamp } (.ok (fieldsOf FieldValue.ofJson text))).map
        (otherCore.finish otherEntry)) := by
  have hComplete := Draft.storeAll_failures { timestamp } (fieldsOf FieldValue.ofJson text)
  refine .stored (.inl ?_) rfl ?_ hComplete hComplete
  · rw [hMembers]
    rfl
  · exact Draft.get?_storeAll_fieldsOf FieldValue.ofJson text timestamp

theorem sameReading_of_none (hNone : membersOf? text = none) (policy : ErrorPolicy)
    (reason otherReason : String) :
    SameReading policy text ((policy.storeRead { timestamp } (.error reason)).map (core.finish entry))
      ((policy.storeRead { timestamp } (.error otherReason)).map (otherCore.finish otherEntry)) := by
  cases policy with
  | skipField => exact .malformed hNone (by decide) reason otherReason
  | skipEntry => exact .malformed hNone (by decide) reason otherReason
  | ignoreError =>
      refine .stored (.inr rfl) rfl (fun key => ?_) rfl rfl
      rw [member?, hNone]
      rfl

/-- If two readings of a text give its members, the policy does the same with both. -/
theorem ErrorPolicy.sameReading_storeRead
    (hRead : read.toOption = (membersOf? text).map fun _ => fieldsOf FieldValue.ofJson text)
    (hOther : other.toOption = (membersOf? text).map fun _ => fieldsOf FieldValue.ofJson text)
    (policy : ErrorPolicy) :
    SameReading policy text ((policy.storeRead { timestamp } read).map (core.finish entry))
      ((policy.storeRead { timestamp } other).map (otherCore.finish otherEntry)) := by
  cases hMembers : membersOf? text with
  | some members =>
      rw [hMembers] at hRead hOther
      rw [eq_ok_of_toOption hRead, eq_ok_of_toOption hOther]
      exact sameReading_of_object hMembers policy
  | none =>
      rw [hMembers] at hRead hOther
      obtain ⟨reason, rfl⟩ := exists_eq_error_of_toOption hRead
      obtain ⟨otherReason, rfl⟩ := exists_eq_error_of_toOption hOther
      exact sameReading_of_none hMembers policy reason otherReason

end

namespace RawEntry

variable {entry : RawEntry}

/-- The entry with another message. -/
def withMessage (entry : RawEntry) (message : String) : RawEntry :=
  { entry with message := message }

/-- The entry with a text that comes with it as its fields. -/
def withFields (entry : RawEntry) (fields : String) : RawEntry :=
  { entry with fields := some fields }

theorem Filled.withMessage (h : entry.Filled) {message : String} (hMessage : trimmed message ≠ "") :
    (entry.withMessage message).Filled := by
  intro argument
  cases argument with
  | message => exact hMessage
  | timestamp => exact h .timestamp
  | source => exact h .source
  | host => exact h .host
  | severity => exact h .severity

theorem Filled.withFields (h : entry.Filled) (fields : String) : (entry.withFields fields).Filled := by
  intro argument
  have hSame : (entry.withFields fields).argument argument = entry.argument argument := by
    cases argument <;> rfl
  rw [hSame]
  exact h argument

end RawEntry

/-- Where messages are not looked at, an entry has the fields that came with it. -/
theorem ParserCore.parse_passThrough_of_checked (core : ParserCore) {entry : RawEntry}
    {timestamp : Calendar.Instant} (hChecked : entry.checked = .ok timestamp) :
    (EntryParser.passThrough core).parse entry =
      (core.policy.storeRead { timestamp } entry.given).map (core.finish entry) := by
  rw [EntryParser.parse_eq_stages, hChecked]
  simp only [EntryParser.stages, EntryParser.passThrough]
  cases core.policy.storeRead { timestamp } entry.given <;> rfl

namespace Strategy

/-- A parser of objects in which no string stands for anything else, and one that looks at no message,
under the same policy: the first reads a text as a message as the second reads it where it comes with the
entry. -/
theorem same_reading_of_build {repository otherRepository : RepositoryConfig}
    {parser otherParser : ParserConfig} {tokenizer otherTokenizer : Tokenizer}
    {reading keeping : EntryParser}
    (hReading : json.build repository parser tokenizer = .ok reading)
    (hDate : parser.properties.setting? Property.datePattern = none)
    (hLong : parser.properties.setting? Property.longSuffix = none)
    (hKeeping : default.build otherRepository otherParser otherTokenizer = .ok keeping)
    (hPolicy : parser.policy = otherParser.policy)
    {entry : RawEntry} (hFilled : entry.Filled) {timestamp : Calendar.Instant}
    (hTimestamp : Calendar.Timestamp.read? entry.timestamp.toList = some timestamp)
    (hBare : ∀ fields ∈ entry.fields, blank fields = true)
    {text : String} (hText : trimmed text ≠ "") :
    SameReading parser.policy text (reading.parse (entry.withMessage text))
        (keeping.parse (entry.withFields text)) ∧
      ∃ hints, StringHints.ofConfig parser = .ok hints ∧
        ∀ v, hints.ofJson v = FieldValue.ofJson v := by
  obtain ⟨hints, core, hHints, hCore, rfl⟩ := build_json_eq_ok_iff.mp hReading
  obtain ⟨otherCore, hOtherCore, rfl⟩ := map_eq_ok hKeeping
  have hPlain := StringHints.plain_of_ofConfig hHints hDate hLong
  refine ⟨?_, hints, hHints, hPlain.ofJson_eq⟩
  have hChecked : (entry.withMessage text).checked = .ok timestamp := by
    rw [RawEntry.checked_of_filled (hFilled.withMessage hText), RawEntry.withMessage, hTimestamp]
  have hOtherChecked : (entry.withFields text).checked = .ok timestamp := by
    rw [RawEntry.checked_of_filled (hFilled.withFields text), RawEntry.withFields, hTimestamp]
  have hBareGiven : (entry.withMessage text).given = .ok [] := RawEntry.given_of_blank hBare
  have hNotBlank : blank text = false := by
    rwa [← Bool.not_eq_true, ← trimmed_eq_empty_iff]
  have hMessage := hints.toOption_members text
  rw [funext hPlain.ofJson_eq] at hMessage
  have hGiven : (entry.withFields text).given.toOption = _ := RawEntry.toOption_given rfl hNotBlank
  rw [hints.parse_of_checked hChecked, hBareGiven, otherCore.parse_passThrough_of_checked hOtherChecked,
    (ParserCore.configured_of_ofConfig hCore).policy,
    (ParserCore.configured_of_ofConfig hOtherCore).policy, ← hPolicy]
  exact parser.policy.sameReading_storeRead hMessage hGiven

end Strategy

/-- An entry that comes without fields. -/
def RawEntry.bare : RawEntry where
  timestamp := "2024-01-15T10:30:00.000Z"
  source := "proxy"
  host := "web-1"
  severity := "info"
  message := "x|y"

/-- An object with another in it, and with a string that could stand for a whole number. -/
def Json.nestedText : String :=
  "\x7b\"size\":\"12n\",\"at\":\x7b\"x\":[1,null]\x7d\x7d"

theorem Strategy.same_reading_of_build_nested :
    ∃ reading keeping result other,
      json.build (.named "web") { name := "api", strategy := "json" } Keywords.words = .ok reading ∧
      default.build (.named "web") { name := "main", strategy := "default" } Keywords.words =
        .ok keeping ∧
      reading.parse (.withMessage .bare Json.nestedText) = .ok result ∧
      keeping.parse (.withFields .bare Json.nestedText) = .ok other ∧
      result.entry.fields = other.entry.fields ∧
      (result.entry.fields.get? "size").bind FieldValue.string? = some "12n" := by
  have hRun : ((json.build (.named "web") { name := "api", strategy := "json" }
      Keywords.words).toOption.bind fun reading =>
        (reading.parse (.withMessage .bare Json.nestedText)).toOption.bind fun result =>
            (result.entry.fields.get? "size").bind FieldValue.string?) = some "12n" := by
    decide +kernel
  obtain ⟨reading, hReading, hRun⟩ := Option.bind_eq_some_iff.mp hRun
  obtain ⟨result, hResult, hSize⟩ := Option.bind_eq_some_iff.mp hRun
  have hKept : (default.build (.named "web") { name := "main", strategy := "default" }
      Keywords.words).toOption.isSome = true := by
    decide +kernel
  obtain ⟨keeping, hKeeping⟩ := Option.isSome_iff_exists.mp hKept
  have hTimed : (Calendar.Timestamp.read? RawEntry.bare.timestamp.toList).isSome = true := by
    decide +kernel
  obtain ⟨timestamp, hTimestamp⟩ := Option.isSome_iff_exists.mp hTimed
  have hFilled : RawEntry.bare.Filled := RawEntry.filled_of_firstBlank? (by decide +kernel)
  have hText : trimmed Json.nestedText ≠ "" := by
    decide +kernel
  obtain ⟨hSame, -⟩ := same_reading_of_build (eq_ok_of_toOption hReading) rfl rfl
    (eq_ok_of_toOption hKeeping) rfl hFilled hTimestamp nofun hText
  rw [eq_ok_of_toOption hResult] at hSame
  generalize hOther : keeping.parse _ = outcome at hSame
  cases hSame with
  | stored _ hFields _ _ _ =>
      exact ⟨reading, keeping, result, _, eq_ok_of_toOption hReading, eq_ok_of_toOption hKeeping,
        eq_ok_of_toOption hResult, hOther, hFields, hSize⟩

end LogIngest

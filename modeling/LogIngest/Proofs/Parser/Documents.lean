import LogIngest.Proofs.Json.Members
import LogIngest.Proofs.Parser.Stages

/-!
Messages that are JSON objects. Such a message is taken as a whole or not at all, and so are the fields that
come with an entry. Main statement: noting failures and rejecting entries for them come to the same; ignoring
them stores what each of the two texts has that is an object; and in every entry that is stored, the members
of the message take the place of those that came with it.
-/

namespace LogIngest

open Json (Value member? membersOf?)

/-! ### Members as fields -/

/-- What is done to all values is done to the one that is looked up. -/
theorem lookup_map_value {α β : Type} (f : α → β) (pairs : List (String × α)) (key : String) :
    (pairs.map fun pair => (pair.1, f pair.2)).lookup key = (pairs.lookup key).map f := by
  induction pairs with
  | nil => rfl
  | cons pair rest ih =>
      obtain ⟨k, value⟩ := pair
      rw [List.map_cons, List.lookup_cons, List.lookup_cons, ih]
      cases key == k <;> rfl

/-- Members are converted one by one under hints. -/
theorem StringHints.ofJsonMembers_eq_map (hints : StringHints) (members : List (String × Value)) :
    hints.ofJsonMembers members = members.map fun member => (member.1, hints.ofJson member.2) := by
  induction members with
  | nil => rfl
  | cons member rest ih => rw [ofJsonMembers, ih, List.map_cons]

/-- Members are converted one by one without hints. -/
theorem FieldValue.ofJsonMembers_eq_map (members : List (String × Value)) :
    ofJsonMembers members = members.map fun member => (member.1, ofJson member.2) := by
  induction members with
  | nil => rfl
  | cons member rest ih => rw [ofJsonMembers, ih, List.map_cons]

/-- The members of a text as fields; none if the text is no JSON object. -/
def fieldsOf (convert : Value → FieldValue) (text : String) : List (String × FieldValue) :=
  ((membersOf? text).getD []).map fun member => (member.1, convert member.2)

/-- The field of a member is its converted value, for each key of a text. -/
theorem lookup_fieldsOf (convert : Value → FieldValue) (text key : String) :
    (fieldsOf convert text).lookup key = (member? text key).map convert := by
  rw [fieldsOf, lookup_map_value, member?]
  cases membersOf? text <;> rfl

/-- The fields of a text stand in the order of their keys. -/
theorem ascending_fieldsOf (convert : Value → FieldValue) (text : String) :
    Ascending (fieldsOf convert text) := by
  unfold fieldsOf
  cases hMembers : membersOf? text with
  | none => exact .nil
  | some members => exact List.pairwise_map.mpr (Json.ascending_of_membersOf? hMembers)

/-- A text that is no object has no fields. -/
theorem fieldsOf_of_none (convert : Value → FieldValue) {text : String}
    (h : membersOf? text = none) : fieldsOf convert text = [] := by
  rw [fieldsOf, h]
  rfl

/-- What the message of an entry gives to the fields. -/
theorem StringHints.toOption_members (hints : StringHints) (message : String) :
    (hints.members message).toOption =
      (membersOf? message).map fun _ => fieldsOf hints.ofJson message := by
  unfold members fieldsOf membersOf?
  cases Value.read message.toList with
  | error fault => rfl
  | ok value =>
      cases value with
      | object members => exact congrArg some (hints.ofJsonMembers_eq_map members)
      | _ => rfl

/-- An entry without fields, or with blank ones, brings none. -/
theorem RawEntry.given_of_blank {entry : RawEntry}
    (h : ∀ fields ∈ entry.fields, blank fields = true) : entry.given = .ok [] := by
  have hNone : (entry.fields.filter fun fields => !blank fields) = none := by
    rw [Option.filter_eq_none_iff]
    intro fields hFields
    simp [h fields hFields]
  simp only [given, hNone]

/-- What the text that comes with an entry gives to the fields. -/
theorem RawEntry.toOption_given {entry : RawEntry} {fields : String}
    (hFields : entry.fields = some fields) (hFilled : blank fields = false) :
    entry.given.toOption = (membersOf? fields).map fun _ => fieldsOf FieldValue.ofJson fields := by
  have hSome : (entry.fields.filter fun fields => !blank fields) = some fields := by
    simp [hFields, hFilled]
  simp only [given, hSome]
  unfold fieldsOf membersOf?
  cases Value.read fields.toList with
  | error fault => rfl
  | ok value =>
      cases value with
      | object members => exact congrArg some (FieldValue.ofJsonMembers_eq_map members)
      | _ => rfl

/-- Among fields in the order of their names, the one stored last under a name is the only one. -/
theorem Draft.get?_storeAll {fields : List (String × FieldValue)} (h : Ascending fields)
    (draft : Draft) (key : String) :
    (draft.storeAll fields).fields.get? key = (fields.lookup key).or (draft.fields.get? key) := by
  induction fields generalizing draft with
  | nil => rfl
  | cons field rest ih =>
      obtain ⟨name, value⟩ := field
      obtain ⟨hFirst, hRest⟩ := List.pairwise_cons.mp h
      rw [storeAll_cons, ih hRest, store, Dictionary.get?_insert, List.lookup_cons]
      by_cases hKey : key = name
      · have hAbsent : rest.lookup key = none := by
          rw [Option.eq_none_iff_forall_ne_some]
          intro other hOther
          have hAfter := hFirst _ ((Ascending.lookup_eq_some_iff hRest key other).mp hOther)
          exact String.lt_irrefl name (hKey ▸ hAfter)
        rw [hAbsent, if_pos hKey, hKey, beq_self_eq_true]
        rfl
      · rw [if_neg hKey, beq_false_of_ne hKey]

/-- An empty draft with the fields of a text has just these. -/
theorem Draft.get?_storeAll_fieldsOf (convert : Value → FieldValue) (text : String)
    (timestamp : Calendar.Instant) (key : String) :
    (Draft.storeAll { timestamp } (fieldsOf convert text)).fields.get? key =
      (member? text key).map convert := by
  rw [get?_storeAll (ascending_fieldsOf convert text), lookup_fieldsOf]
  exact Option.or_none

/-! ### Entries with two documents -/

/-- What is read of a message, if anything, are the fields of its text. -/
theorem StringHints.getD_members (hints : StringHints) (message : String) :
    (hints.members message).toOption.getD [] = fieldsOf hints.ofJson message := by
  rw [toOption_members]
  cases hMembers : membersOf? message with
  | none => exact (fieldsOf_of_none hints.ofJson hMembers).symm
  | some members => rfl

/-- What is read of the fields that come with an entry, if anything, are those of their text. -/
theorem RawEntry.getD_given (entry : RawEntry) :
    entry.given.toOption.getD [] = (entry.fields.map (fieldsOf FieldValue.ofJson)).getD [] := by
  cases hFields : entry.fields with
  | none =>
      rw [given_of_blank (by simp [hFields])]
      rfl
  | some fields =>
      cases hBlank : blank fields with
      | true =>
          rw [given_of_blank (by simpa [hFields] using hBlank)]
          exact (fieldsOf_of_none FieldValue.ofJson (Json.membersOf?_of_blank hBlank)).symm
      | false =>
          rw [toOption_given hFields hBlank]
          cases hMembers : membersOf? fields with
          | none => exact (fieldsOf_of_none FieldValue.ofJson hMembers).symm
          | some members => rfl

/-- What an entry has under a key: the member of its message, or else the one that came with it. -/
def StringHints.valueOf? (hints : StringHints) (entry : RawEntry) (key : String) : Option FieldValue :=
  ((member? entry.message key).map hints.ofJson).or
    ((entry.fields.bind fun fields => member? fields key).map FieldValue.ofJson)

/-- The fields that came with an entry are stored, and then the members of its message. -/
def StringHints.fill (hints : StringHints) (entry : RawEntry) (draft : Draft) : Draft :=
  (draft.storeAll (entry.given.toOption.getD [])).storeAll
    ((hints.members entry.message).toOption.getD [])

/-- A field of the filled draft is that of the message, or else the one that came with the entry. -/
theorem StringHints.get?_fill (hints : StringHints) (entry : RawEntry)
    (timestamp : Calendar.Instant) (key : String) :
    (hints.fill entry { timestamp }).fields.get? key = hints.valueOf? entry key := by
  have hGiven : (Draft.storeAll { timestamp } (entry.given.toOption.getD [])).fields.get? key =
      (entry.fields.bind fun fields => member? fields key).map FieldValue.ofJson := by
    rw [RawEntry.getD_given]
    cases entry.fields with
    | none => rfl
    | some fields => exact Draft.get?_storeAll_fieldsOf FieldValue.ofJson fields timestamp key
  rw [fill, getD_members, Draft.get?_storeAll (ascending_fieldsOf _ _), lookup_fieldsOf, hGiven, valueOf?]

@[simp] theorem StringHints.fill_failures (hints : StringHints) (entry : RawEntry) (draft : Draft) :
    (hints.fill entry draft).failures = draft.failures := by
  rw [fill, Draft.storeAll_failures, Draft.storeAll_failures]

/-- The message of an entry is an object, and so is what came with it as its fields. -/
structure RawEntry.Documented (entry : RawEntry) : Prop where
  message : (membersOf? entry.message).isSome = true
  fields : ∀ fields ∈ entry.fields, blank fields = false → (membersOf? fields).isSome = true

/-- A message can be read exactly if it is an object. -/
theorem StringHints.isSome_members (hints : StringHints) (message : String) :
    (hints.members message).toOption.isSome = (membersOf? message).isSome := by
  rw [toOption_members, Option.isSome_map]

/-- The fields of an entry can be read exactly if they are blank or an object. -/
theorem RawEntry.isSome_given_iff {entry : RawEntry} :
    entry.given.toOption.isSome = true ↔
      ∀ fields ∈ entry.fields, blank fields = false → (membersOf? fields).isSome = true := by
  by_cases hBlank : ∀ fields ∈ entry.fields, blank fields = true
  · rw [given_of_blank hBlank]
    refine ⟨fun _ fields hFields hFilled => ?_, fun _ => rfl⟩
    cases hFilled.symm.trans (hBlank fields hFields)
  · simp only [not_forall, Bool.not_eq_true] at hBlank
    obtain ⟨fields, hFields, hFilled⟩ := hBlank
    rw [toOption_given hFields hFilled, Option.isSome_map]
    refine ⟨fun h other hOther _ => ?_, fun h => h fields hFields hFilled⟩
    obtain rfl : fields = other := Option.some.inj (hFields.symm.trans hOther)
    exact h

/-! ### Outcomes under the policies -/

namespace ErrorPolicy

/-- Where errors are ignored, what cannot be read stores nothing. -/
theorem storeRead_ignoreError (draft : Draft) (read : Except String (List (String × FieldValue))) :
    ignoreError.storeRead draft read = .ok (draft.storeAll (read.toOption.getD [])) := by
  cases read <;> rfl

/-- Under the other policies, what cannot be read rejects the entry. -/
theorem storeRead_of_ne {policy : ErrorPolicy} (h : policy ≠ ignoreError) (draft : Draft)
    (read : Except String (List (String × FieldValue))) :
    policy.storeRead draft read =
      match read with
      | .ok fields => .ok (draft.storeAll fields)
      | .error reason => .error (.malformedJson reason) := by
  cases policy with
  | ignoreError => exact absurd rfl h
  | skipField => cases read <;> rfl
  | skipEntry => cases read <;> rfl

end ErrorPolicy

namespace StringHints

variable (hints : StringHints) {core : ParserCore} {entry : RawEntry} {timestamp : Calendar.Instant}

/-- An entry with a valid timestamp is parsed by storing the fields of one text and then those of the other. -/
theorem parse_of_checked (hChecked : entry.checked = .ok timestamp) :
    (hints.toParser core).parse entry =
      (core.policy.storeRead { timestamp } entry.given >>= fun draft =>
        core.policy.storeRead draft (hints.members entry.message)).map (core.finish entry) := by
  rw [EntryParser.parse_eq_stages, hChecked]
  simp only [EntryParser.stages, toParser, extract_eq]

/-- Where errors are ignored, such an entry is always stored, with the fields of what could be read. -/
theorem parse_of_ignoring (hPolicy : core.policy = .ignoreError)
    (hChecked : entry.checked = .ok timestamp) :
    (hints.toParser core).parse entry = .ok (core.finish entry (hints.fill entry { timestamp })) := by
  rw [parse_of_checked hints hChecked, hPolicy, ErrorPolicy.storeRead_ignoreError]
  simp only [bind, Except.bind, ErrorPolicy.storeRead_ignoreError]
  rfl

/-- Unless errors are ignored, the first of the two texts that is no object rejects the entry. -/
theorem parse_of_strict (hPolicy : core.policy ≠ .ignoreError)
    (hChecked : entry.checked = .ok timestamp) :
    (hints.toParser core).parse entry =
      match entry.given, hints.members entry.message with
      | .error reason, _ => .error (.malformedJson reason)
      | .ok _, .error reason => .error (.malformedJson reason)
      | .ok _, .ok _ => .ok (core.finish entry (hints.fill entry { timestamp })) := by
  rw [parse_of_checked hints hChecked, ErrorPolicy.storeRead_of_ne hPolicy, fill]
  cases entry.given with
  | error reason => rfl
  | ok fields =>
      simp only [bind, Except.bind, ErrorPolicy.storeRead_of_ne hPolicy]
      cases hints.members entry.message <;> rfl

end StringHints

/-- What becomes of an entry under the three policies if its message is to be an object. -/
structure AllOrNothing (hints : StringHints) (entry : RawEntry)
    (noting rejecting ignoring : Outcome) : Prop where
  rejecting_eq : rejecting = noting
  noting_ok_iff : (∃ result, noting = .ok result) ↔
    (∃ timestamp, entry.checked = .ok timestamp) ∧ entry.Documented
  ignoring_of_ok : ∀ result, noting = .ok result → ignoring = .ok result
  ignoring_of_malformedJson : ∀ reason, noting = .error (.malformedJson reason) →
    ∃ result, ignoring = .ok result ∧ result.failures = []
  fields : ∀ result, noting = .ok result ∨ ignoring = .ok result →
    ∀ key, result.entry.fields.get? key = hints.valueOf? entry key

/-- The checks before parsing never blame a JSON text. -/
theorem RawEntry.checked_ne_malformedJson (entry : RawEntry) (reason : String) :
    entry.checked ≠ .error (.malformedJson reason) := by
  intro h
  unfold checked at h
  split at h
  · cases h
  · split at h <;> cases h

namespace AllOrNothing

variable {hints : StringHints} {entry : RawEntry}

/-- An entry that fails the checks is rejected for the same reason under all policies. -/
theorem of_checked_error {reason : SkipReason} (hChecked : entry.checked = .error reason) :
    AllOrNothing hints entry (.error reason) (.error reason) (.error reason) := by
  refine ⟨rfl, ?_, ?_, ?_, ?_⟩
  · constructor
    · rintro ⟨result, h⟩
      cases h
    · rintro ⟨⟨timestamp, h⟩, -⟩
      cases hChecked.symm.trans h
  · intro result h
    cases h
  · intro text h
    obtain rfl := Except.error.inj h
    exact absurd hChecked (entry.checked_ne_malformedJson text)
  · rintro result (h | h) <;> cases h

/-- Without errors there is one result, and it is given unless one of the two texts is no object. -/
theorem of_stored {timestamp : Calendar.Instant} (hChecked : entry.checked = .ok timestamp)
    {stored : Result} (hComplete : stored.failures = [])
    (hFields : ∀ key, stored.entry.fields.get? key = hints.valueOf? entry key) {strict : Outcome}
    (hStrict : entry.Documented ∧ strict = .ok stored ∨
      ¬entry.Documented ∧ ∃ reason, strict = .error (.malformedJson reason)) :
    AllOrNothing hints entry strict strict (.ok stored) := by
  rcases hStrict with ⟨hDocumented, rfl⟩ | ⟨hNot, reason, rfl⟩
  · refine ⟨rfl, ?_, fun _ h => h, nofun, ?_⟩
    · exact ⟨fun _ => ⟨⟨timestamp, hChecked⟩, hDocumented⟩, fun _ => ⟨stored, rfl⟩⟩
    · rintro result (h | h) <;> exact Except.ok.inj h ▸ hFields
  · refine ⟨rfl, ?_, ?_, fun _ _ => ⟨stored, rfl, hComplete⟩, ?_⟩
    · constructor
      · rintro ⟨result, h⟩
        cases h
      · rintro ⟨-, hDocumented⟩
        exact absurd hDocumented hNot
    · intro result h
      cases h
    · rintro result (h | h)
      · cases h
      · exact Except.ok.inj h ▸ hFields

end AllOrNothing

/-- An entry is documented if both of its texts can be read. -/
theorem RawEntry.documented_iff (hints : StringHints) {entry : RawEntry} :
    entry.Documented ↔ entry.given.toOption.isSome = true ∧
      (hints.members entry.message).toOption.isSome = true := by
  rw [isSome_given_iff, hints.isSome_members]
  exact ⟨fun h => ⟨h.fields, h.message⟩, fun h => ⟨h.2, h.1⟩⟩

/-- The three policies compared for a parser of documents, by cases of what can be read. -/
theorem StringHints.allOrNothing_parse (hints : StringHints) (core : ParserCore) (entry : RawEntry) :
    AllOrNothing hints entry ((hints.toParser (core.withPolicy .skipField)).parse entry)
      ((hints.toParser (core.withPolicy .skipEntry)).parse entry)
      ((hints.toParser (core.withPolicy .ignoreError)).parse entry) := by
  cases hChecked : entry.checked with
  | error reason =>
      rw [EntryParser.parse_of_checked_error _ hChecked, EntryParser.parse_of_checked_error _ hChecked,
        EntryParser.parse_of_checked_error _ hChecked]
      exact .of_checked_error hChecked
  | ok timestamp =>
      have hNoting : (core.withPolicy .skipField).policy ≠ .ignoreError := ErrorPolicy.noConfusion
      have hRejecting : (core.withPolicy .skipEntry).policy ≠ .ignoreError := ErrorPolicy.noConfusion
      have hIgnoring : (core.withPolicy .ignoreError).policy = .ignoreError := rfl
      rw [hints.parse_of_strict hNoting hChecked, hints.parse_of_strict hRejecting hChecked,
        hints.parse_of_ignoring hIgnoring hChecked]
      refine .of_stored hChecked (hints.fill_failures entry _) (hints.get?_fill entry timestamp) ?_
      rw [RawEntry.documented_iff hints]
      cases entry.given with
      | error reason => exact .inr ⟨by simp [Except.toOption], reason, rfl⟩
      | ok fields =>
          cases hints.members entry.message with
          | error reason => exact .inr ⟨by simp [Except.toOption], reason, rfl⟩
          | ok members => exact .inl ⟨⟨rfl, rfl⟩, rfl⟩

namespace Strategy

variable {repository : RepositoryConfig} {parser : ParserConfig} {tokenizer : Tokenizer}
  {built : EntryParser}

/-- The policy of a parser of objects goes into its core, and nothing else depends on it. -/
theorem exists_hints_of_build_json (hBuild : json.build repository parser tokenizer = .ok built) :
    ∃ hints core, StringHints.ofConfig parser = .ok hints ∧ core.policy = parser.policy ∧
      hints.toParser core = built ∧
      ∀ policy, json.build repository (parser.withPolicy policy) tokenizer =
        .ok (hints.toParser (core.withPolicy policy)) := by
  obtain ⟨hints, core, hHints, hCore, hBuilt⟩ := build_json_eq_ok_iff.mp hBuild
  refine ⟨hints, core, hHints, (ParserCore.configured_of_ofConfig hCore).policy, hBuilt, ?_⟩
  intro policy
  have hOther := ParserCore.ofConfig_withPolicy hCore policy
  exact build_json_eq_ok_iff.mpr ⟨hints, core.withPolicy policy, hHints, hOther, rfl⟩

/-- A configuration of a parser of objects that can be built can be built under each policy. Whether an
entry is stored is the same whether failures are noted or reject it; if they are ignored, it is stored with
the members of those of its two texts that are objects. -/
theorem json_all_or_nothing (hBuild : json.build repository parser tokenizer = .ok built) :
    ∃ hints noting rejecting ignoring, StringHints.ofConfig parser = .ok hints ∧
      json.build repository (parser.withPolicy .skipField) tokenizer = .ok noting ∧
      json.build repository (parser.withPolicy .skipEntry) tokenizer = .ok rejecting ∧
      json.build repository (parser.withPolicy .ignoreError) tokenizer = .ok ignoring ∧
      ∀ entry, AllOrNothing hints entry (noting.parse entry) (rejecting.parse entry)
        (ignoring.parse entry) := by
  obtain ⟨hints, core, hHints, -, -, hPolicies⟩ := exists_hints_of_build_json hBuild
  refine ⟨hints, _, _, _, hHints, hPolicies .skipField, hPolicies .skipEntry, hPolicies .ignoreError, ?_⟩
  exact hints.allOrNothing_parse core

end Strategy

/-- The kind of a reason tells that a JSON text is to blame. -/
theorem SkipReason.eq_malformedJson_of_kind {reason : SkipReason} (h : reason.kind = "Json") :
    ∃ text, reason = .malformedJson text := by
  cases reason with
  | malformedJson text => exact ⟨text, rfl⟩
  | _ => simp [kind] at h

/-- A parser of objects that takes texts such as 12n for whole numbers. -/
def ParserConfig.suffixed : ParserConfig where
  name := "api"
  strategy := "json"
  properties := Dictionary.insert ∅ Property.longSuffix "[0-9]+n"

/-- An entry with a message that breaks off, and with fields that came with it. -/
def RawEntry.brokenOff : RawEntry where
  timestamp := "2024-01-15T10:30:00.000Z"
  source := "proxy"
  host := "web-1"
  severity := "info"
  fields := some "\x7b\"size\":\"12n\"\x7d"
  message := "\x7b\"size\":\"13n\","

/-- The entry is rejected, and if errors are ignored it has the fields that came with it, in which no text
is taken for a number. -/
theorem Strategy.json_all_or_nothing_brokenOff :
    ∃ noting rejecting ignoring reason result,
      json.build (.named "web") (.withPolicy .suffixed .skipField) Keywords.words = .ok noting ∧
      json.build (.named "web") (.withPolicy .suffixed .skipEntry) Keywords.words = .ok rejecting ∧
      json.build (.named "web") (.withPolicy .suffixed .ignoreError) Keywords.words = .ok ignoring ∧
      noting.parse .brokenOff = .error (.malformedJson reason) ∧
      rejecting.parse .brokenOff = .error (.malformedJson reason) ∧
      ignoring.parse .brokenOff = .ok result ∧ result.failures = [] ∧
      (result.entry.fields.get? "size").bind FieldValue.string? = some "12n" := by
  have hRun : ((json.build (.named "web") (.withPolicy .suffixed .skipField)
      Keywords.words).toOption.bind fun noting =>
        match noting.parse .brokenOff with
        | .error reason => some reason.kind
        | .ok _ => none) = some "Json" := by
    decide +kernel
  have hMessage : (member? RawEntry.brokenOff.message "size").isNone = true := by decide +kernel
  have hGiven : ((RawEntry.brokenOff.fields.bind fun fields => member? fields "size").map
      FieldValue.ofJson).bind FieldValue.string? = some "12n" := by
    decide +kernel
  obtain ⟨built, hBuilt, hKind⟩ := Option.bind_eq_some_iff.mp hRun
  have hBuild := eq_ok_of_toOption hBuilt
  obtain ⟨hints, noting, rejecting, ignoring, -, hNoting, hRejecting, hIgnoring, hOutcomes⟩ :=
    json_all_or_nothing hBuild
  have hSame (policy) : (ParserConfig.withPolicy .suffixed .skipField).withPolicy policy =
    .withPolicy .suffixed policy := rfl
  rw [hSame] at hNoting hRejecting hIgnoring
  obtain rfl : noting = built := Except.ok.inj (hNoting.symm.trans hBuild)
  have hBroken := hOutcomes .brokenOff
  generalize hParse : noting.parse .brokenOff = outcome at hKind hBroken
  obtain ⟨reason, rfl⟩ : ∃ reason, outcome = .error (.malformedJson reason) := by
    cases outcome with
    | ok result => cases hKind
    | error skip =>
        obtain ⟨reason, rfl⟩ := SkipReason.eq_malformedJson_of_kind (Option.some.inj hKind)
        exact ⟨reason, rfl⟩
  obtain ⟨result, hStored, hComplete⟩ := hBroken.ignoring_of_malformedJson reason rfl
  refine ⟨noting, rejecting, ignoring, reason, result, hNoting, hRejecting, hIgnoring, hParse,
    hBroken.rejecting_eq, hStored, hComplete, ?_⟩
  rw [hBroken.fields result (.inr hStored), StringHints.valueOf?, Option.isNone_iff_eq_none.mp hMessage,
    Option.map_none, Option.none_or]
  exact hGiven

end LogIngest

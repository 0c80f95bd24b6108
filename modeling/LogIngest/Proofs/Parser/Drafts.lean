import LogIngest.Parser.Strategy

/-!
Drafts of entries: how they are started and what becomes of them when fields are applied. Main
statements: the policy has a say in the start only where the fields that came with an entry cannot be
read, and for each policy the draft after all fields is given by the values and the failures among their
outcomes, in their order.
-/

namespace LogIngest

namespace Draft

@[simp] theorem storeAll_nil (draft : Draft) : draft.storeAll [] = draft :=
  rfl

@[simp] theorem storeAll_cons (draft : Draft) (field : String) (value : FieldValue)
    (rest : List (String × FieldValue)) :
    draft.storeAll ((field, value) :: rest) = (draft.store field value).storeAll rest :=
  rfl

@[simp] theorem storeAll_failures (draft : Draft) (fields : List (String × FieldValue)) :
    (draft.storeAll fields).failures = draft.failures := by
  induction fields generalizing draft with
  | nil => rfl
  | cons pair rest ih =>
      obtain ⟨field, value⟩ := pair
      rw [storeAll_cons, ih]
      rfl

/-- Where nothing is stored, what was there stays. -/
theorem get?_storeAll_of_not_mem {fields : List (String × FieldValue)} {name : String}
    (h : name ∉ fields.map Prod.fst) (draft : Draft) :
    (draft.storeAll fields).fields.get? name = draft.fields.get? name := by
  induction fields generalizing draft with
  | nil => rfl
  | cons pair rest ih =>
      obtain ⟨field, value⟩ := pair
      have hFirst : name ≠ field := List.ne_of_not_mem_cons h
      have hRest : name ∉ rest.map Prod.fst := List.not_mem_of_not_mem_cons h
      rw [storeAll_cons, ih hRest, store, Dictionary.get?_insert, if_neg hFirst]

theorem storeAll_fields (timestamp : Calendar.Instant) (fields : List (String × FieldValue)) :
    (storeAll { timestamp } fields).fields = .ofList fields := by
  have hEntries : ∀ draft : Draft, (draft.storeAll fields).fields.entries =
      fields.foldl (fun sorted pair => insertPair pair.1 pair.2 sorted) draft.fields.entries := by
    induction fields with
    | nil =>
        intro draft
        rfl
    | cons pair rest ih =>
        intro draft
        exact ih (draft.store pair.1 pair.2)
  have hStart := hEntries { timestamp }
  cases hFields : (storeAll { timestamp } fields).fields with
  | mk entries ascending =>
      rw [hFields] at hStart
      cases hStart
      rfl

/-- What is stored under one of the names is found there, if no name occurs twice. -/
theorem get?_storeAll_of_mem {fields : List (String × FieldValue)}
    (hNodup : (fields.map Prod.fst).Nodup) {name : String} {value : FieldValue}
    (h : (name, value) ∈ fields) (draft : Draft) :
    (draft.storeAll fields).fields.get? name = some value := by
  induction fields generalizing draft with
  | nil => cases h
  | cons pair rest ih =>
      obtain ⟨field, first⟩ := pair
      obtain ⟨hAbsent, hRest⟩ := List.nodup_cons.mp hNodup
      rw [storeAll_cons]
      rcases List.mem_cons.mp h with hFirst | hMore
      · obtain ⟨rfl, rfl⟩ := Prod.mk.inj hFirst
        rw [get?_storeAll_of_not_mem hAbsent, store, Dictionary.get?_insert, if_pos rfl]
      · exact ih hRest hMore (draft.store field first)

/-- Adds failures behind those that are there. -/
def note (draft : Draft) (failures : List FieldFailure) : Draft :=
  { draft with failures := draft.failures ++ failures }

@[simp] theorem note_nil (draft : Draft) : draft.note [] = draft := by
  simp [note]

theorem note_note (draft : Draft) (failures more : List FieldFailure) :
    (draft.note failures).note more = draft.note (failures ++ more) := by
  simp [note, List.append_assoc]

/-- Failures and values do not get into each other's way. -/
theorem storeAll_note (draft : Draft) (failures : List FieldFailure)
    (fields : List (String × FieldValue)) :
    (draft.note failures).storeAll fields = (draft.storeAll fields).note failures := by
  induction fields generalizing draft with
  | nil => rfl
  | cons pair rest ih => exact ih (draft.store pair.1 pair.2)

end Draft

/-- The fields among some outcomes that have values. -/
def valuesOf (outcomes : List (String × Except FieldError FieldValue)) :
    List (String × FieldValue) :=
  outcomes.filterMap fun (field, outcome) =>
    match outcome with
    | .ok value => some (field, value)
    | .error _ => none

/-- The fields among some outcomes that have failed. -/
def failuresOf (outcomes : List (String × Except FieldError FieldValue)) : List FieldFailure :=
  outcomes.filterMap fun (field, outcome) =>
    match outcome with
    | .ok _ => none
    | .error error => some ⟨field, error⟩

namespace ErrorPolicy

variable (draft : Draft) (outcomes : List (String × Except FieldError FieldValue))

/-- The values are stored and the failures are noted. -/
theorem applyFields_skipField :
    skipField.applyFields draft outcomes =
      .ok ((draft.storeAll (valuesOf outcomes)).note (failuresOf outcomes)) := by
  induction outcomes generalizing draft with
  | nil => simp [applyFields, valuesOf, failuresOf, pure, Except.pure]
  | cons pair rest ih =>
      obtain ⟨field, outcome⟩ := pair
      cases outcome with
      | ok value => exact ih (draft.store field value)
      | error error =>
          have hRest := ih (draft.note [⟨field, error⟩])
          rw [Draft.storeAll_note, Draft.note_note] at hRest
          exact hRest

/-- The values are stored and the failures are forgotten. -/
theorem applyFields_ignoreError :
    ignoreError.applyFields draft outcomes = .ok (draft.storeAll (valuesOf outcomes)) := by
  induction outcomes generalizing draft with
  | nil => rfl
  | cons pair rest ih =>
      obtain ⟨field, outcome⟩ := pair
      cases outcome with
      | ok value => exact ih (draft.store field value)
      | error error => exact ih draft

/-- The first failure rejects the entry; without one the values are stored. -/
theorem applyFields_skipEntry :
    skipEntry.applyFields draft outcomes =
      match failuresOf outcomes with
      | [] => .ok (draft.storeAll (valuesOf outcomes))
      | failure :: _ => .error (.field failure.field failure.error) := by
  induction outcomes generalizing draft with
  | nil => rfl
  | cons pair rest ih =>
      obtain ⟨field, outcome⟩ := pair
      cases outcome with
      | ok value => exact ih (draft.store field value)
      | error error => rfl

/-- Under every policy, what is left in the end are the values, and the failures that are noted. Where
failures reject the entry, there are none. -/
theorem applyFields_eq_ok {policy : ErrorPolicy} {draft applied : Draft}
    {outcomes : List (String × Except FieldError FieldValue)}
    (h : policy.applyFields draft outcomes = .ok applied) :
    applied.fields = (draft.storeAll (valuesOf outcomes)).fields ∧
      applied.failures = draft.failures ++
        (if policy = .skipField then failuresOf outcomes else []) ∧
      (policy = .skipEntry → failuresOf outcomes = []) := by
  cases policy with
  | skipField =>
      rw [applyFields_skipField] at h
      obtain rfl := Except.ok.inj h
      refine ⟨rfl, ?_, nofun⟩
      rw [Draft.note, Draft.storeAll_failures, if_pos rfl]
  | skipEntry =>
      rw [applyFields_skipEntry] at h
      split at h
      · next hNone =>
          obtain rfl := Except.ok.inj h
          refine ⟨rfl, ?_, fun _ => hNone⟩
          rw [Draft.storeAll_failures, if_neg (by decide), List.append_nil]
      · cases h
  | ignoreError =>
      rw [applyFields_ignoreError] at h
      obtain rfl := Except.ok.inj h
      refine ⟨rfl, ?_, nofun⟩
      rw [Draft.storeAll_failures, if_neg (by decide), List.append_nil]

end ErrorPolicy

/-! ### What comes before the fields -/

namespace RawEntry

/-- The timestamp of an entry, once it is clear that no part is blank. -/
def checked (entry : RawEntry) : Except SkipReason Calendar.Instant :=
  match entry.firstBlank? with
  | some argument => .error (.blankArgument argument)
  | none =>
    match Calendar.Timestamp.read? entry.timestamp.toList with
    | none => .error (.invalidTimestamp entry.timestamp)
    | some timestamp => .ok timestamp

/-- The fields that came with an entry, or why they cannot be read. -/
def given (entry : RawEntry) : Except String (List (String × FieldValue)) :=
  match entry.fields.filter fun fields => !blank fields with
  | none => .ok []
  | some fields =>
    match Json.Value.read fields.toList with
    | .ok (.object members) => .ok (FieldValue.ofJsonMembers members)
    | .ok other =>
      let kind := other.kind
      .error s!"pre-parsed fields must be a JSON object, found {kind}"
    | .error fault =>
      let reason := fault.message fields.toList
      .error s!"pre-parsed fields: {reason}"

/-- The fields that came with an entry; none if they cannot be read. -/
def upstream (entry : RawEntry) : Dictionary FieldValue :=
  .ofList (entry.given.toOption.getD [])

end RawEntry

namespace ParserCore

/-- The core with another policy. -/
def withPolicy (core : ParserCore) (policy : ErrorPolicy) : ParserCore :=
  { core with policy := policy }

/-- The policy has a say only where the fields that came with an entry cannot be read. -/
theorem prepare_eq (core : ParserCore) (entry : RawEntry) :
    core.prepare entry =
      match entry.checked, entry.given with
      | .error reason, _ => .error reason
      | .ok timestamp, .ok fields => .ok (Draft.storeAll { timestamp } fields)
      | .ok timestamp, .error reason => core.policy.onJsonError { timestamp } reason := by
  cases hBlank : entry.firstBlank? with
  | some argument => simp only [prepare, RawEntry.checked, hBlank]
  | none =>
      cases hTime : Calendar.Timestamp.read? entry.timestamp.toList with
      | none => simp only [prepare, RawEntry.checked, hBlank, hTime]
      | some timestamp =>
          have hChecked : entry.checked = .ok timestamp := by
            simp only [RawEntry.checked, hBlank, hTime]
          cases hFields : entry.fields.filter fun fields => !blank fields with
          | none =>
              have hGiven : entry.given = .ok [] := by simp only [RawEntry.given, hFields]
              simp only [prepare, hBlank, hTime, hFields, hChecked, hGiven, Draft.storeAll_nil]
          | some fields =>
              simp only [prepare, hBlank, hTime, hFields, hChecked, RawEntry.given, storeGiven]
              cases Json.Value.read fields.toList with
              | error fault => rfl
              | ok value => cases value <;> rfl

/-- A draft starts with the fields that came with the entry, and without failures. -/
theorem prepare_eq_ok {core : ParserCore} {entry : RawEntry} {draft : Draft}
    (h : core.prepare entry = .ok draft) :
    draft.fields = entry.upstream ∧ draft.failures = [] := by
  rw [prepare_eq] at h
  split at h
  · cases h
  · next timestamp fields _ hGiven =>
      obtain rfl := Except.ok.inj h
      refine ⟨?_, Draft.storeAll_failures { timestamp } fields⟩
      rw [Draft.storeAll_fields, RawEntry.upstream, hGiven]
      rfl
  · next timestamp message _ hGiven =>
      cases hPolicy : core.policy with
      | skipField =>
          rw [hPolicy] at h
          cases h
      | skipEntry =>
          rw [hPolicy] at h
          cases h
      | ignoreError =>
          rw [hPolicy] at h
          obtain rfl := Except.ok.inj h
          refine ⟨?_, rfl⟩
          rw [RawEntry.upstream, hGiven]
          rfl

end ParserCore
end LogIngest

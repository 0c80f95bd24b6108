import Mathlib.Data.List.Nodup
import LogIngest.Proofs.Parser.Extraction

/-!
The types of the fields that parsers store. What is found in a message has the type of its field, but a
field that fails leaves in place what came with the entry under its name. Main statement: the stored
fields are typed, and those reported as failed are absent, exactly when no failed field has a value of
another type, or one where the failure is reported, among the fields that came with the entry.
-/

namespace LogIngest

/-- An outcome belongs to a configured field: it has its name, and a value in it has its type. -/
structure FieldConfig.Admits (field : FieldConfig)
    (outcome : String × Except FieldError FieldValue) : Prop where
  name : outcome.1 = field.name
  typed : ∀ value, outcome.2 = .ok value → value.dataType? = some field.dataType

namespace Strategy

variable {repository : RepositoryConfig} {parser : ParserConfig} {tokenizer : Tokenizer}
  {built : EntryParser}

theorem Finds.admits {strategy : Strategy} {message : String} {field : FieldConfig}
    {outcome : String × Except FieldError FieldValue}
    (h : strategy.Finds parser message field outcome) : field.Admits outcome := by
  cases h with
  | converted hMade _ =>
      refine ⟨rfl, fun value hValue => ?_⟩
      exact (FieldConverter.serves_of_ofConfig hMade).dataType?_read hValue
  | failed _ => exact ⟨rfl, nofun⟩

/-- A parser that is built finds one outcome for each configured field, in their order. -/
theorem Fieldwise.admits {strategy : Strategy} (hStrategy : strategy.Fieldwise)
    (hBuild : strategy.build repository parser tokenizer = .ok built) (message : String) :
    List.Forall₂ FieldConfig.Admits parser.fields (strategy.outcomes parser message) :=
  (hStrategy.finds hBuild message).imp fun _ _ => Finds.admits

end Strategy

/-! ### Values and failures among outcomes -/

section

variable {fields : List FieldConfig} {found : List (String × Except FieldError FieldValue)}

theorem names_of_admits (h : List.Forall₂ FieldConfig.Admits fields found) :
    found.map Prod.fst = fields.map FieldConfig.name := by
  induction h with
  | nil => rfl
  | cons hFirst _ ih => rw [List.map_cons, List.map_cons, ih, hFirst.name]

theorem exists_outcome_of_mem (h : List.Forall₂ FieldConfig.Admits fields found) {field : FieldConfig}
    (hField : field ∈ fields) : ∃ outcome ∈ found, field.Admits outcome := by
  induction h with
  | nil => cases hField
  | cons hFirst _ ih =>
      rcases List.mem_cons.mp hField with rfl | hMore
      · exact ⟨_, List.mem_cons_self, hFirst⟩
      · obtain ⟨outcome, hOutcome, hAdmits⟩ := ih hMore
        exact ⟨outcome, List.mem_cons_of_mem _ hOutcome, hAdmits⟩

theorem mem_valuesOf_iff {name : String} {value : FieldValue} :
    (name, value) ∈ valuesOf found ↔ (name, .ok value) ∈ found := by
  unfold valuesOf
  rw [List.mem_filterMap]
  constructor
  · rintro ⟨⟨field, outcome⟩, hMem, hValue⟩
    cases outcome with
    | error error => cases hValue
    | ok found =>
        cases hValue
        exact hMem
  · intro hMem
    exact ⟨_, hMem, rfl⟩

theorem mem_failuresOf_iff {failure : FieldFailure} :
    failure ∈ failuresOf found ↔ (failure.field, .error failure.error) ∈ found := by
  unfold failuresOf
  rw [List.mem_filterMap]
  constructor
  · rintro ⟨⟨field, outcome⟩, hMem, hFailure⟩
    cases outcome with
    | ok value => cases hFailure
    | error error =>
        cases hFailure
        exact hMem
  · intro hMem
    exact ⟨_, hMem, rfl⟩

theorem nodup_valuesOf (h : (found.map Prod.fst).Nodup) :
    ((valuesOf found).map Prod.fst).Nodup := by
  refine h.sublist ?_
  induction found with
  | nil => exact .slnil
  | cons pair rest ih =>
      obtain ⟨name, outcome⟩ := pair
      have hRest := ih (List.nodup_cons.mp h).2
      cases outcome with
      | ok value => exact hRest.cons_cons name
      | error error => exact hRest.cons name

/-- A field that fails has no value besides. -/
theorem not_mem_valuesOf_of_error (hNodup : (found.map Prod.fst).Nodup) {name : String}
    {error : FieldError} (h : (name, .error error) ∈ found) :
    name ∉ (valuesOf found).map Prod.fst := by
  intro hName
  obtain ⟨⟨field, value⟩, hValue, rfl⟩ := List.mem_map.mp hName
  have hSame := List.inj_on_of_nodup_map hNodup (mem_valuesOf_iff.mp hValue) h rfl
  cases hSame

end

/-! ### Stored fields -/

/-- Configured fields in the entry have their types, and no field that is reported as failed is
there. -/
structure Result.Typed (result : Result) (fields : List FieldConfig) : Prop where
  typed : ∀ field ∈ fields, ∀ value, result.entry.fields.get? field.name = some value →
    value.dataType? = some field.dataType
  absent : ∀ failure ∈ result.failures, result.entry.fields.get? failure.field = none

/-- For each configured field, the entry has the value that was found, or else what came with it. -/
theorem EntryParser.Stored.get?_eq {policy : ErrorPolicy} {entry : RawEntry} {result : Result}
    {found : List (String × Except FieldError FieldValue)}
    (hStored : Stored policy entry found result) (hNodup : (found.map Prod.fst).Nodup) {name : String}
    {outcome : Except FieldError FieldValue} (hOutcome : (name, outcome) ∈ found) :
    result.entry.fields.get? name = outcome.toOption.or (entry.upstream.get? name) := by
  obtain ⟨start, hStart, hFields⟩ := hStored.fields
  rw [hFields]
  cases outcome with
  | ok value =>
      exact Draft.get?_storeAll_of_mem (nodup_valuesOf hNodup) (mem_valuesOf_iff.mpr hOutcome) start
  | error error =>
      rw [Draft.get?_storeAll_of_not_mem (not_mem_valuesOf_of_error hNodup hOutcome), hStart]
      rfl

/-- A field that fails leaves in place what came with the entry under its name. So the stored fields are
typed exactly when no failed field has such a value, or the failure is forgotten and the value happens to
have the type of the field. -/
theorem Strategy.typed_iff_upstream {strategy : Strategy} (hStrategy : strategy.Fieldwise)
    {repository : RepositoryConfig} {parser : ParserConfig} {tokenizer : Tokenizer}
    {built : EntryParser} (hBuild : strategy.build repository parser tokenizer = .ok built)
    (hNodup : (parser.fields.map FieldConfig.name).Nodup) {entry : RawEntry} {result : Result}
    (hParse : built.parse entry = .ok result) :
    result.Typed parser.fields ↔
      ∀ field ∈ parser.fields, ∀ error,
        (field.name, .error error) ∈ strategy.outcomes parser entry.message →
          ∀ value, entry.upstream.get? field.name = some value →
            parser.policy = .ignoreError ∧ value.dataType? = some field.dataType := by
  obtain ⟨core, hPolicy, rfl, -⟩ := hStrategy.exists_core hBuild
  have hAdmits := hStrategy.admits hBuild entry.message
  have hStored := EntryParser.stored_of_parse core (strategy.outcomes parser) hParse
  rw [hPolicy] at hStored
  have hNames : ((strategy.outcomes parser entry.message).map Prod.fst).Nodup := by
    rwa [names_of_admits hAdmits]
  constructor
  · intro hTyped field hField error hError value hValue
    have hGet := hStored.get?_eq hNames hError
    rw [hValue] at hGet
    have hFailed : ⟨field.name, error⟩ ∈ failuresOf (strategy.outcomes parser entry.message) :=
      mem_failuresOf_iff.mpr hError
    refine ⟨?_, hTyped.typed field hField value hGet⟩
    cases hCase : parser.policy with
    | skipField =>
        rw [hCase] at hStored
        have hAbsent := hTyped.absent ⟨field.name, error⟩ (by rw [hStored.failures]; exact hFailed)
        cases hGet.symm.trans hAbsent
    | skipEntry =>
        rw [hStored.unfailed hCase] at hFailed
        cases hFailed
    | ignoreError => rfl
  · intro hUpstream
    refine ⟨?_, ?_⟩
    · intro field hField value hValue
      obtain ⟨⟨name, outcome⟩, hOutcome, hName, hTyped⟩ := exists_outcome_of_mem hAdmits hField
      obtain rfl : name = field.name := hName
      rw [hStored.get?_eq hNames hOutcome] at hValue
      cases outcome with
      | ok found =>
          obtain rfl : found = value := Option.some.inj hValue
          exact hTyped found rfl
      | error error => exact (hUpstream field hField error hOutcome value hValue).2
    · intro failure hFailure
      rw [hStored.failures] at hFailure
      split at hFailure
      · next hNoting =>
          have hError := mem_failuresOf_iff.mp hFailure
          have hName : failure.field ∈ parser.fields.map FieldConfig.name := by
            rw [← names_of_admits hAdmits]
            exact List.mem_map_of_mem hError
          obtain ⟨field, hField, hSame⟩ := List.mem_map.mp hName
          rw [hStored.get?_eq hNames hError]
          cases hValue : entry.upstream.get? failure.field with
          | none => rfl
          | some value =>
              rw [← hSame] at hError hValue
              have hIgnoring := (hUpstream field hField failure.error hError value hValue).1
              rw [hNoting] at hIgnoring
              cases hIgnoring
      · cases hFailure

/-- An entry whose first token is no whole number, with fields that came with it. -/
def RawEntry.withoutStatus (fields : Option String) : RawEntry where
  timestamp := "2024-01-15T10:30:00.000Z"
  source := "proxy"
  host := "web-1"
  severity := "info"
  fields := fields
  message := "x|y"

theorem Strategy.typed_withoutStatus :
    ∃ built result, delimited.build (.named "web") .statusFirst Keywords.words = .ok built ∧
      built.parse (.withoutStatus none) = .ok result ∧
      result.failures.map FieldFailure.field = ["status"] ∧
      result.Typed ParserConfig.statusFirst.fields := by
  have hRun : ((delimited.build (.named "web") .statusFirst Keywords.words).toOption.bind fun built =>
      (built.parse (.withoutStatus none)).toOption.map fun result =>
        result.failures.map FieldFailure.field) = some ["status"] := by
    decide +kernel
  obtain ⟨built, hBuilt, hRun⟩ := Option.bind_eq_some_iff.mp hRun
  obtain ⟨result, hResult, hFailures⟩ := Option.map_eq_some_iff.mp hRun
  have hBuild := eq_ok_of_toOption hBuilt
  have hParse := eq_ok_of_toOption hResult
  refine ⟨built, result, hBuild, hParse, hFailures, ?_⟩
  refine (typed_iff_upstream .byDelimiter hBuild (by decide) hParse).mpr ?_
  intro field _ error _ value hValue
  cases hValue

/-- The failed status is reported, and yet the entry has the text that came with it. -/
theorem Strategy.not_typed_withoutStatus :
    ∃ built result, delimited.build (.named "web") .statusFirst Keywords.words = .ok built ∧
      built.parse (.withoutStatus (some "\x7b\"status\":\"n/a\"\x7d")) = .ok result ∧
      result.failures.map FieldFailure.field = ["status"] ∧
      (result.entry.fields.get? "status").bind FieldValue.string? = some "n/a" ∧
      ¬result.Typed ParserConfig.statusFirst.fields := by
  have hRun : ((delimited.build (.named "web") .statusFirst Keywords.words).toOption.bind fun built =>
      (built.parse (.withoutStatus (some "\x7b\"status\":\"n/a\"\x7d"))).toOption.map fun result =>
        (result.failures.map FieldFailure.field,
          (result.entry.fields.get? "status").bind FieldValue.string?)) =
      some (["status"], some "n/a") := by
    decide +kernel
  obtain ⟨built, hBuilt, hRun⟩ := Option.bind_eq_some_iff.mp hRun
  obtain ⟨result, hResult, hBoth⟩ := Option.map_eq_some_iff.mp hRun
  obtain ⟨hFailures, hLeft⟩ := Prod.mk.inj hBoth
  refine ⟨built, result, eq_ok_of_toOption hBuilt, eq_ok_of_toOption hResult, hFailures, hLeft, ?_⟩
  intro hTyped
  obtain ⟨failure, hFailure, hName⟩ : ∃ failure ∈ result.failures, failure.field = "status" := by
    rw [← List.mem_map, hFailures]
    exact List.mem_singleton.mpr rfl
  have hAbsent := hTyped.absent failure hFailure
  rw [hName] at hAbsent
  rw [hAbsent] at hLeft
  cases hLeft

end LogIngest

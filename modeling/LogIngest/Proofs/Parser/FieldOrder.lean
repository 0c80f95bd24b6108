import LogIngest.Proofs.Dictionary
import LogIngest.Proofs.Parser.FieldOutcomes

/-!
Fields in another order. What is found for a field depends on the message alone, and what is stored under
names that differ does not depend on which is stored first. Main statement: parsers with the same fields in
another order make the same of every entry, but for the order of the failures that they note, and for the
choice of the failure that rejects an entry.
-/

namespace LogIngest

/-- Values under different names are stored in any order. -/
theorem Draft.storeAll_perm {fields others : List (String × FieldValue)} (hPerm : fields.Perm others)
    (hNodup : (fields.map Prod.fst).Nodup) (draft : Draft) :
    draft.storeAll fields = draft.storeAll others := by
  have hNames : (fields.map Prod.fst).Perm (others.map Prod.fst) := hPerm.map Prod.fst
  have hFields : (draft.storeAll fields).fields = (draft.storeAll others).fields := by
    apply Dictionary.ext_get?
    intro name
    by_cases hName : name ∈ fields.map Prod.fst
    · obtain ⟨⟨_, value⟩, hValue, rfl⟩ := List.mem_map.mp hName
      rw [get?_storeAll_of_mem hNodup hValue,
        get?_storeAll_of_mem (hNames.nodup_iff.mp hNodup) (hPerm.mem_iff.mp hValue)]
    · rw [get?_storeAll_of_not_mem hName,
        get?_storeAll_of_not_mem fun hOther => hName (hNames.mem_iff.mpr hOther)]
  have hTimestamp : (draft.storeAll fields).timestamp = (draft.storeAll others).timestamp := by simp
  have hFailures : (draft.storeAll fields).failures = (draft.storeAll others).failures := by simp
  calc draft.storeAll fields
      = ⟨(draft.storeAll fields).timestamp, (draft.storeAll fields).fields,
          (draft.storeAll fields).failures⟩ := rfl
    _ = draft.storeAll others := by rw [hTimestamp, hFields, hFailures]

/-- The fields of a configuration in another order. -/
def ParserConfig.withFields (parser : ParserConfig) (fields : List FieldConfig) : ParserConfig :=
  { parser with fields := fields }

/-- Two parsers under a policy make the same of an entry, but for an order. -/
inductive SameUpToOrder (policy : ErrorPolicy) : Outcome → Outcome → Prop where
  /-- The entries are equal, and the same failures are noted. -/
  | stored {result other : Result} (entry : result.entry = other.entry)
      (parser : result.parser = other.parser) (failures : result.failures.Perm other.failures) :
      SameUpToOrder policy (.ok result) (.ok other)
  | rejected (reason : SkipReason) : SameUpToOrder policy (.error reason) (.error reason)
  /-- Each parser rejects the entry for the first of its fields that fails. -/
  | failed (rejecting : policy = .skipEntry) (field other : String) (cause otherCause : FieldError) :
      SameUpToOrder policy (.error (.field field cause)) (.error (.field other otherCause))

namespace EntryParser

variable {core : ParserCore}
  {outcomes others : (message : String) → List (String × Except FieldError FieldValue)}

theorem sameUpToOrder_ofOutcomes {entry : RawEntry}
    (hPerm : (outcomes entry.message).Perm (others entry.message))
    (hNodup : ((outcomes entry.message).map Prod.fst).Nodup) :
    SameUpToOrder core.policy ((ofOutcomes core outcomes).parse entry)
      ((ofOutcomes core others).parse entry) := by
  rw [parse_ofOutcomes, parse_ofOutcomes]
  cases core.prepare entry with
  | error reason => exact .rejected reason
  | ok draft =>
      have hValues : draft.storeAll (valuesOf (outcomes entry.message)) =
          draft.storeAll (valuesOf (others entry.message)) :=
        draft.storeAll_perm (hPerm.filterMap _) (nodup_valuesOf hNodup)
      have hFailures : (failuresOf (outcomes entry.message)).Perm (failuresOf (others entry.message)) :=
        hPerm.filterMap _
      cases hPolicy : core.policy with
      | skipField =>
          simp only [ErrorPolicy.applyFields_skipField, hValues]
          exact .stored rfl rfl (hFailures.append_left _)
      | ignoreError =>
          simp only [ErrorPolicy.applyFields_ignoreError, hValues]
          exact .stored rfl rfl (.refl _)
      | skipEntry =>
          simp only [ErrorPolicy.applyFields_skipEntry, hValues]
          -- Either parser has a first failure, if one has.
          cases hFirst : failuresOf (outcomes entry.message) with
          | nil =>
              rw [hFirst] at hFailures
              rw [hFailures.symm.eq_nil]
              exact .stored rfl rfl (.refl _)
          | cons failure rest =>
              obtain ⟨other, more, hOther⟩ : ∃ other more, failuresOf (others entry.message) = other :: more := by
                apply List.exists_cons_of_ne_nil
                intro hNone
                rw [hFirst, hNone] at hFailures
                cases hFailures.eq_nil
              rw [hOther]
              exact .failed rfl failure.field other.field failure.error other.error

end EntryParser

namespace Strategy

variable {parser : ParserConfig} {fields : List FieldConfig}

theorem exists_delimited_of_perm {format : Delimited} (h : Delimited.ofConfig parser = .ok format)
    (hPerm : parser.fields.Perm fields) : ∃ other, Delimited.ofConfig (parser.withFields fields) = .ok other ∧
      ∀ message, (format.outcomes message).Perm (other.outcomes message) := by
  obtain ⟨setting, hSetting, h⟩ := bind_eq_ok h
  obtain ⟨positioned, hPositioned, h⟩ := bind_eq_ok h
  obtain rfl := Except.ok.inj h
  obtain ⟨others, hOthers, hSame⟩ := exists_mapM_eq_ok_of_perm hPerm hPositioned
  refine ⟨{ delimiter := Delimited.unescape setting, fields := others }, ?_, fun message => hSame.map _⟩
  simp only [Delimited.ofConfig, ParserConfig.withFields, hSetting, hOthers, bind, Except.bind]
  rfl

theorem exists_regex_of_perm {format : Matching} (h : Matching.ofConfig parser = .ok format)
    (hPerm : parser.fields.Perm fields) : ∃ other, Matching.ofConfig (parser.withFields fields) = .ok other ∧
      ∀ message, (format.outcomes message).Perm (other.outcomes message) := by
  obtain ⟨pattern, hPattern, h⟩ := bind_eq_ok h
  obtain ⟨captured, hCaptured, h⟩ := bind_eq_ok h
  obtain rfl := Except.ok.inj h
  obtain ⟨others, hOthers, hSame⟩ := exists_mapM_eq_ok_of_perm hPerm hCaptured
  refine ⟨{ pattern, fields := others }, ?_, fun message => hSame.map _⟩
  simp only [Matching.ofConfig, ParserConfig.withFields, hPattern, hOthers, bind, Except.bind]
  rfl

/-- A parser that can be built can be built with its fields in another order, and then finds the same. -/
theorem Fieldwise.exists_reordered {strategy : Strategy} (hStrategy : strategy.Fieldwise)
    {repository : RepositoryConfig} {tokenizer : Tokenizer} {built : EntryParser}
    (hBuild : strategy.build repository parser tokenizer = .ok built)
    (hPerm : parser.fields.Perm fields) :
    ∃ core others, core.policy = parser.policy ∧ .ofOutcomes core (strategy.outcomes parser) = built ∧
      strategy.build repository (parser.withFields fields) tokenizer = .ok (.ofOutcomes core others) ∧
      ∀ message, (strategy.outcomes parser message).Perm (others message) := by
  cases hStrategy with
  | byDelimiter =>
      obtain ⟨format, core, hFormat, hCore, hBuilt⟩ := build_delimited_eq_ok_iff.mp hBuild
      obtain ⟨other, hOther, hSame⟩ := exists_delimited_of_perm hFormat hPerm
      rw [outcomes_delimited hFormat]
      exact ⟨core, other.outcomes, (ParserCore.configured_of_ofConfig hCore).policy, hBuilt,
        build_delimited_eq_ok_iff.mpr ⟨other, core, hOther, hCore, rfl⟩, hSame⟩
  | byPatterns =>
      obtain ⟨format, core, hFormat, hCore, hBuilt⟩ := build_regex_eq_ok_iff.mp hBuild
      obtain ⟨other, hOther, hSame⟩ := exists_regex_of_perm hFormat hPerm
      rw [outcomes_regex hFormat]
      exact ⟨core, other.outcomes, (ParserCore.configured_of_ofConfig hCore).policy, hBuilt,
        build_regex_eq_ok_iff.mpr ⟨other, core, hOther, hCore, rfl⟩, hSame⟩

/-- The order of fields with different names does not matter to what becomes of an entry. -/
theorem sameUpToOrder_of_perm {strategy : Strategy} (hStrategy : strategy.Fieldwise)
    {repository : RepositoryConfig} {tokenizer : Tokenizer} {built : EntryParser}
    (hBuild : strategy.build repository parser tokenizer = .ok built)
    (hNodup : (parser.fields.map FieldConfig.name).Nodup) (hPerm : parser.fields.Perm fields) :
    ∃ other, strategy.build repository (parser.withFields fields) tokenizer = .ok other ∧
      ∀ entry, SameUpToOrder parser.policy (built.parse entry) (other.parse entry) := by
  obtain ⟨core, others, hPolicy, rfl, hOther, hSame⟩ := hStrategy.exists_reordered hBuild hPerm
  refine ⟨_, hOther, fun entry => ?_⟩
  have hNames : ((strategy.outcomes parser entry.message).map Prod.fst).Nodup := by
    rwa [names_of_admits (hStrategy.admits hBuild entry.message)]
  rw [← hPolicy]
  exact EntryParser.sameUpToOrder_ofOutcomes (hSame entry.message) hNames

end Strategy

/-- With two tokens that are no numbers, the entry is rejected for the field that comes first. -/
theorem Strategy.sameUpToOrder_of_perm_reversed :
    ∃ built other,
      delimited.build (.named "web") (.withPolicy .statusAndSize .skipEntry) Keywords.words = .ok built ∧
      delimited.build (.named "web") ((ParserConfig.statusAndSize.withPolicy .skipEntry).withFields
        ParserConfig.statusAndSize.fields.reverse) Keywords.words = .ok other ∧
      built.parse (.withoutStatus none) = .error (.field "status" (.invalidNumber "x" "integer")) ∧
      other.parse (.withoutStatus none) = .error (.field "size" (.invalidNumber "y" "integer")) ∧
      SameUpToOrder .skipEntry (built.parse (.withoutStatus none)) (other.parse (.withoutStatus none)) := by
  have hRun : ((delimited.build (.named "web") (.withPolicy .statusAndSize .skipEntry)
      Keywords.words).toOption.map fun built => (built.parse (.withoutStatus none)).map fun _ => ()) =
        some (.error (.field "status" (.invalidNumber "x" "integer"))) := by
    decide +kernel
  have hReversed : ((delimited.build (.named "web")
      ((ParserConfig.statusAndSize.withPolicy .skipEntry).withFields
        ParserConfig.statusAndSize.fields.reverse) Keywords.words).toOption.map fun other =>
          (other.parse (.withoutStatus none)).map fun _ => ()) =
        some (.error (.field "size" (.invalidNumber "y" "integer"))) := by
    decide +kernel
  obtain ⟨built, hBuilt, hRejects⟩ := Option.map_eq_some_iff.mp hRun
  obtain ⟨reversed, hReversed, hOtherRejects⟩ := Option.map_eq_some_iff.mp hReversed
  have hBuild := eq_ok_of_toOption hBuilt
  obtain ⟨other, hOther, hSame⟩ := sameUpToOrder_of_perm .byDelimiter hBuild (by decide)
    (List.reverse_perm ParserConfig.statusAndSize.fields).symm
  obtain rfl := Except.ok.inj ((eq_ok_of_toOption hReversed).symm.trans hOther)
  exact ⟨built, reversed, hBuild, hOther, map_eq_error hRejects, map_eq_error hOtherRejects, hSame _⟩

end LogIngest

import LogIngest.Proofs.Parser.Stages
import LogIngest.Proofs.Parser.Typing

/-!
What becomes of the fields of an entry where failures are noted. Main statement: for each field the value
that is found is stored, or else its failure is noted, in the order of the configuration, and everything else
that came with the entry stays as it was.
-/

namespace LogIngest

/-- Every outcome is accounted for: it is a failure that is noted, or a value that stands in the entry. Under
any other name there is what came with the entry. -/
structure Result.Accounts (result : Result) (given : Dictionary FieldValue)
    (found : List (String × Except FieldError FieldValue)) : Prop where
  failures : result.failures = failuresOf found
  stored : ∀ name value, (name, .ok value) ∈ found → result.entry.fields.get? name = some value
  kept : ∀ name, (∀ value, (name, .ok value) ∉ found) →
    result.entry.fields.get? name = given.get? name

theorem length_failuresOf_add_length_valuesOf (found : List (String × Except FieldError FieldValue)) :
    (failuresOf found).length + (valuesOf found).length = found.length := by
  induction found with
  | nil => rfl
  | cons outcome rest ih =>
      obtain ⟨name, outcome⟩ := outcome
      cases outcome with
      | ok value =>
          change (failuresOf rest).length + ((valuesOf rest).length + 1) = rest.length + 1
          omega
      | error error =>
          change (failuresOf rest).length + 1 + (valuesOf rest).length = rest.length + 1
          omega

theorem EntryParser.accounts_finish (core : ParserCore) (entry : RawEntry) {draft : Draft}
    (hNone : draft.failures = []) {found : List (String × Except FieldError FieldValue)}
    (hNodup : (found.map Prod.fst).Nodup) :
    (core.finish entry ((draft.storeAll (valuesOf found)).note (failuresOf found))).Accounts
      draft.fields found := by
  refine ⟨?_, ?_, ?_⟩
  · simp [ParserCore.finish, Draft.note, hNone]
  · intro name value hValue
    exact Draft.get?_storeAll_of_mem (nodup_valuesOf hNodup) (mem_valuesOf_iff.mpr hValue) draft
  · intro name hNoValue
    apply Draft.get?_storeAll_of_not_mem
    intro hName
    obtain ⟨⟨_, value⟩, hValue, rfl⟩ := List.mem_map.mp hName
    exact hNoValue value (mem_valuesOf_iff.mp hValue)

namespace Strategy

/-- Where failures are noted, an entry that can be prepared is stored, and each field of the parser is
accounted for. -/
theorem accounts_of_prepare {strategy : Strategy} (hStrategy : strategy.Fieldwise)
    {repository : RepositoryConfig} {parser : ParserConfig} {tokenizer : Tokenizer} {built : EntryParser}
    (hBuild : strategy.build repository parser tokenizer = .ok built)
    (hPolicy : parser.policy = .skipField) (hNodup : (parser.fields.map FieldConfig.name).Nodup)
    {entry : RawEntry} {draft : Draft} (hPrepare : built.core.prepare entry = .ok draft) :
    (∃ found, List.Forall₂ (strategy.Finds parser entry.message) parser.fields found) ∧
      ∀ found, List.Forall₂ (strategy.Finds parser entry.message) parser.fields found →
        ∃ result, built.parse entry = .ok result ∧ result.Accounts draft.fields found ∧
          result.failures.length + (valuesOf found).length = parser.fields.length := by
  have hFinds := hStrategy.finds hBuild entry.message
  refine ⟨⟨_, hFinds⟩, fun found hFound => ?_⟩
  have hUnique : Relator.RightUnique (strategy.Finds parser entry.message) := fun _ _ _ => Finds.unique
  obtain rfl := hUnique.forall₂ hFinds hFound
  have hNames : ((strategy.outcomes parser entry.message).map Prod.fst).Nodup := by
    rwa [names_of_admits (hStrategy.admits hBuild entry.message)]
  obtain ⟨core, hSame, rfl, -⟩ := hStrategy.exists_core hBuild
  rw [hPolicy] at hSame
  have hAccounts := EntryParser.accounts_finish core entry (ParserCore.prepare_eq_ok hPrepare).2 hNames
  refine ⟨_, ?_, hAccounts, ?_⟩
  · have hPrepared : core.prepare entry = .ok draft := hPrepare
    simp only [EntryParser.parse_ofOutcomes, hPrepared, hSame, ErrorPolicy.applyFields_skipField]
    rfl
  · rw [hAccounts.failures, length_failuresOf_add_length_valuesOf, hFinds.length_eq]

end Strategy

/-- A parser of delimited messages that takes a status and a size from the first two tokens. -/
def ParserConfig.statusAndSize : ParserConfig :=
  statusFirst.withField ⟨"size", .integer, Dictionary.insert ∅ Property.position "2"⟩

/-- An entry with a status and no size in its message, but with a size that came with it. -/
def RawEntry.withoutSize : RawEntry :=
  { withoutStatus (some "\x7b\"size\":\"n/a\"\x7d") with message := "200" }

theorem Strategy.accounts_of_prepare_withoutSize :
    ∃ built draft found result,
      delimited.build (.named "web") .statusAndSize Keywords.words = .ok built ∧
      built.core.prepare .withoutSize = .ok draft ∧
      List.Forall₂ (delimited.Finds .statusAndSize RawEntry.withoutSize.message)
        ParserConfig.statusAndSize.fields found ∧
      built.parse .withoutSize = .ok result ∧ result.Accounts draft.fields found ∧
      result.failures = [⟨"size", .positionOutOfRange 2 1⟩] ∧
      (result.entry.fields.get? "size").bind FieldValue.string? = some "n/a" ∧
      (result.entry.fields.get? "status").map FieldValue.text = some "200" := by
  have hRun : ((delimited.build (.named "web") .statusAndSize Keywords.words).toOption.bind fun built =>
      (built.core.prepare .withoutSize).toOption.bind fun _ =>
        (built.parse .withoutSize).toOption.map fun result =>
          (result.failures, (result.entry.fields.get? "size").bind FieldValue.string?,
            (result.entry.fields.get? "status").map FieldValue.text)) =
      some ([⟨"size", .positionOutOfRange 2 1⟩], some "n/a", some "200") := by
    decide +kernel
  obtain ⟨built, hBuilt, hRun⟩ := Option.bind_eq_some_iff.mp hRun
  obtain ⟨draft, hDraft, hRun⟩ := Option.bind_eq_some_iff.mp hRun
  obtain ⟨stored, hStored, hRun⟩ := Option.map_eq_some_iff.mp hRun
  obtain ⟨hFailures, hRun⟩ := Prod.mk.inj hRun
  obtain ⟨hSize, hStatus⟩ := Prod.mk.inj hRun
  have hBuild := eq_ok_of_toOption hBuilt
  have hPrepare := eq_ok_of_toOption hDraft
  obtain ⟨⟨found, hFound⟩, hAll⟩ := accounts_of_prepare .byDelimiter hBuild rfl (by decide) hPrepare
  obtain ⟨result, hResult, hAccounts, -⟩ := hAll found hFound
  obtain rfl := Except.ok.inj ((eq_ok_of_toOption hStored).symm.trans hResult)
  exact ⟨built, draft, found, stored, hBuild, hPrepare, hFound, hResult, hAccounts, hFailures, hSize,
    hStatus⟩

end LogIngest

import LogIngest.Config.Document
import LogIngest.Proofs.Json.Records

/-!
Configurations survive the way through their documents. Each part of a configuration is read back from
the text in which it is written, members that are left out included. Main statement: the document of a
repository is accepted and gives that repository.
-/

namespace LogIngest

open Json

/-! ### Names -/

@[simp] theorem DataType.ofName_name (dataType : DataType) : ofName dataType.name = .ok dataType := by
  cases dataType <;> rfl

@[simp] theorem FilterMode.ofName_name (mode : FilterMode) : ofName mode.name = .ok mode := by
  cases mode <;> rfl

@[simp] theorem ErrorPolicy.ofName_name (policy : ErrorPolicy) : ofName policy.name = .ok policy := by
  cases policy <;> rfl

/-- A name is read as what it names. -/
theorem reads_name {α : Type} {ofName : String → Except SetupError α} {name : String} {a : α}
    (h : ofName name = .ok a) (levels : Nat) :
    Reads (nameDecoder ofName levels) (stringText name.toList) a :=
  (Reads.string levels name).interpret (by rw [h]; rfl)

/-! ### Budgets and properties -/

/-- Every budget is read from its number. -/
theorem reads_budget (levels : Nat) (budget : Int32) :
    Reads (budgetDecoder levels) (Value.ofInt budget.toInt).compact budget := by
  have hLeast := budget.le_toInt
  have hGreatest := budget.toInt_lt
  have hAdmits : Bounds.int32.admits budget.toInt = true := by
    rw [Bounds.admits, Bool.and_eq_true]
    refine ⟨decide_eq_true ?_, decide_eq_true ?_⟩
    · simp only [Bounds.int32]
      omega
    · simp only [Bounds.int32]
      omega
  have hInteger : Reads (Decoder.integer "i32" .int32 levels) (intText budget.toInt) budget.toInt := by
    refine Reads.integer hAdmits ?_ ?_
    · simp only [Bounds.int64]
      omega
    · simp only [Bounds.word64]
      omega
  have hBudget := hInteger.map Int32.ofInt
  rwa [Int32.ofInt_toInt] at hBudget

namespace Properties

/-- Properties that are texts already stay as they are. -/
theorem mapM_textOf (pairs : List (String × String)) :
    (pairs.map fun pair => (pair.1, Value.string pair.2)).mapM (fun (key, value) =>
      return (← textOf key value).map (key, ·)) = Except.ok (pairs.map some) := by
  induction pairs with
  | nil => rfl
  | cons pair rest ih =>
      rw [List.map_cons, List.mapM_cons, ih]
      rfl

theorem ofValues_map (properties : Properties) :
    ofValues (Dictionary.map Value.string properties) = .ok properties := by
  have hEntries : (Dictionary.map Value.string properties).entries =
      properties.entries.map fun pair => (pair.1, Value.string pair.2) := rfl
  have hSome : (properties.entries.map some).filterMap id = properties.entries := by
    simp [List.filterMap_map]
  rw [ofValues, hEntries, mapM_textOf]
  simp only [bind, Except.bind, hSome, Dictionary.ofList_entries]
  rfl

/-- The properties of a bag are read from the object in which they are written. -/
theorem reads (levels : Nat) (properties : Properties) :
    Reads (Properties.decoder (levels + 1)) (toJson properties).compact properties := by
  have hValues : Reads (Decoder.dictionary Decoder.value (levels + 1)) (toJson properties).compact
      (Dictionary.map Value.string properties) := by
    have hMembers := @Reads.object Value levels Decoder.value id
      (properties.entries.map fun pair => (pair.1, Value.string pair.2)) (by
        intro member hMember
        obtain ⟨pair, -, rfl⟩ := List.mem_map.mp hMember
        exact Reads.stringValue levels pair.2)
    have hSorted : Dictionary.ofList (properties.entries.map fun pair => (pair.1, Value.string pair.2)) =
        Dictionary.map Value.string properties :=
      Dictionary.ofList_entries (Dictionary.map Value.string properties)
    rw [hSorted, List.map_map] at hMembers
    exact hMembers
  exact hValues.interpret (ofValues_map properties)

end Properties

/-! ### Members that may be left out -/

/-- The properties, unless there are none: then they are not written. -/
def Properties.given? (properties : Properties) : Option Properties :=
  if properties.isEmpty then none else some properties

/-- A bag that is left out is the empty one. -/
theorem Properties.getD_given? (properties : Properties) : properties.given?.getD ∅ = properties := by
  unfold given?
  by_cases hEmpty : properties.isEmpty = true
  · rw [if_pos hEmpty]
    exact (Dictionary.eq_empty_of_isEmpty hEmpty).symm
  · rw [if_neg hEmpty]
    rfl

section

variable {α δ : Type} {members : List (Member δ)} {levels : Nat} {draft : δ}

/-- Without a value the member is left out and the draft stays as it is. -/
theorem fills_optionalMember {key : String} {toJson : α → Value} (put : Option α → δ)
    (hNone : put none = draft)
    (hSome : ∀ a, Fills members levels draft [(key, toJson a)] (put (some a))) (value : Option α) :
    Fills members levels draft (ParserConfig.optionalMember key (value.map toJson)) (put value) := by
  cases value with
  | none =>
      rw [hNone]
      exact .done draft
  | some a => exact hSome a

/-- Whether properties are written or left out, they fill their place in a draft. -/
theorem fills_properties (put : Option Properties → δ) (hNone : put none = draft)
    (hSome : ∀ properties, Fills members levels draft [("properties", Properties.toJson properties)]
      (put (some properties))) (properties : Properties) :
    Fills members levels draft
      (if properties.isEmpty then [] else [("properties", Properties.toJson properties)])
      (put properties.given?) := by
  have hMember : (if properties.isEmpty then [] else [("properties", Properties.toJson properties)]) =
      ParserConfig.optionalMember "properties" (properties.given?.map Properties.toJson) := by
    unfold Properties.given?
    split <;> rfl
  rw [hMember]
  exact fills_optionalMember put hNone hSome properties.given?

end

/-! ### Fields, parsers and repositories -/

/-- The configuration of a field is read back. -/
theorem FieldConfig.reads (levels : Nat) (field : FieldConfig) :
    Reads (FieldConfig.decoder (levels + 2)) field.toJson.compact field := by
  let named : Draft := { name := some field.name, dataType := some field.dataType }
  have hNamed : Fills record.members (levels + 1) record.start
      [("name", .string field.name), ("data_type", .string field.dataType.name)] named := by
    refine .step rfl rfl ((Reads.string _ field.name).member _) (.one rfl rfl ?_)
    exact (reads_name (DataType.ofName_name field.dataType) _).member _
  have hProperties : Fills record.members (levels + 1) named
      (if field.properties.isEmpty then [] else [("properties", Properties.toJson field.properties)])
      { named with properties := field.properties.given? } := by
    refine fills_properties (fun properties => { named with properties }) rfl ?_ field.properties
    intro properties
    exact .one rfl rfl ((Properties.reads levels properties).member named)
  refine Record.reads (hNamed.append hProperties) ?_
  have hGiven := Properties.getD_given? field.properties
  simp only [record, required, named, bind, Except.bind, hGiven]
  rfl

/-- A filter that is given is read as one. -/
theorem reads_filter (levels : Nat) (filter : String) :
    Reads (Decoder.string.option levels) (Value.string filter).compact (some filter) :=
  (Reads.string levels filter).option fun _ h => nomatch h

/-- A budget of a parser is read as its own. -/
theorem reads_ownBudget (levels : Nat) (budget : Int32) :
    Reads (Decoder.option budgetDecoder levels) (Value.ofInt budget.toInt).compact (some budget) :=
  (reads_budget levels budget).option (intText_ne_null budget.toInt)

/-- The configuration of a parser is read back, whatever members it leaves out. -/
theorem ParserConfig.reads (levels : Nat) (parser : ParserConfig) :
    Reads (ParserConfig.decoder (levels + 4)) parser.toJson.compact parser := by
  let named : Draft :=
    { name := some parser.name, strategy := some parser.strategy, mode := some parser.mode }
  have hNamed : Fills record.members (levels + 3) record.start
      [("name", .string parser.name), ("parser", .string parser.strategy),
        ("mode", .string parser.mode.name)] named := by
    refine .step rfl rfl ((Reads.string _ parser.name).member _) ?_
    refine .step rfl rfl ((Reads.string _ parser.strategy).member _) (.one rfl rfl ?_)
    exact (reads_name (FilterMode.ofName_name parser.mode) _).member _
  let sourced : Draft := { named with sourceFilter := parser.sourceFilter.map some }
  have hSourced : Fills record.members (levels + 3) named
      (optionalMember "source_filter" (parser.sourceFilter.map .string)) sourced := by
    refine fills_optionalMember (fun filter => { named with sourceFilter := filter.map some }) rfl ?_
      parser.sourceFilter
    intro filter
    exact .one rfl rfl ((reads_filter _ filter).member named)
  let hosted : Draft := { sourced with hostFilter := parser.hostFilter.map some }
  have hHosted : Fills record.members (levels + 3) sourced
      (optionalMember "host_filter" (parser.hostFilter.map .string)) hosted := by
    refine fills_optionalMember (fun filter => { sourced with hostFilter := filter.map some }) rfl ?_
      parser.hostFilter
    intro filter
    exact .one rfl rfl ((reads_filter _ filter).member sourced)
  let governed : Draft := { hosted with policy := some parser.policy }
  have hGoverned : Fills record.members (levels + 3) hosted
      [("error_policy", .string parser.policy.name)] governed :=
    .one rfl rfl ((reads_name (ErrorPolicy.ofName_name parser.policy) _).member hosted)
  let limited : Draft := { governed with maxKeywords := parser.maxKeywords.map some }
  have hLimited : Fills record.members (levels + 3) governed
      (optionalMember "max_keywords" (parser.maxKeywords.map fun n => .ofInt n.toInt)) limited := by
    refine fills_optionalMember (fun budget => { governed with maxKeywords := budget.map some }) rfl ?_
      parser.maxKeywords
    intro budget
    exact .one rfl rfl ((reads_ownBudget _ budget).member governed)
  let equipped : Draft := { limited with properties := parser.properties.given? }
  have hEquipped : Fills record.members (levels + 3) limited
      (if parser.properties.isEmpty then []
        else [("properties", Properties.toJson parser.properties)]) equipped := by
    refine fills_properties (fun properties => { limited with properties }) rfl ?_ parser.properties
    intro properties
    exact .one rfl rfl ((Properties.reads _ properties).member limited)
  have hFields : Fills record.members (levels + 3) equipped
      [("fields", .array (parser.fields.map FieldConfig.toJson))]
      { equipped with fields := some parser.fields } :=
    .one rfl rfl ((Reads.array fun field _ => field.reads levels).member equipped)
  refine Record.reads ((((((hNamed.append hSourced).append hHosted).append hGoverned).append
    hLimited).append hEquipped).append hFields) ?_
  have hGiven := Properties.getD_given? parser.properties
  have hFilters : ∀ filter : Option String, (filter.map some).getD none = filter := by
    intro filter
    cases filter <;> rfl
  have hBudget : (parser.maxKeywords.map some).getD none = parser.maxKeywords := by
    cases parser.maxKeywords <;> rfl
  simp only [record, required, named, sourced, hosted, governed, limited, equipped, bind, Except.bind,
    Option.getD_some, hGiven, hFilters, hBudget]
  rfl

/-- The configuration of a repository is read back. -/
theorem RepositoryConfig.reads (levels : Nat) (config : RepositoryConfig) :
    Reads (RepositoryConfig.decoder (levels + 6)) config.toJson.compact config := by
  have hFills : Fills record.members (levels + 5) record.start
      [("name", .string config.name), ("max_keywords", .ofInt config.maxKeywords.toInt),
        ("parsers", .array (config.parsers.map ParserConfig.toJson))]
      ⟨some config.name, some config.maxKeywords, some config.parsers⟩ := by
    refine .step rfl rfl ((Reads.string _ config.name).member _) ?_
    refine .step rfl rfl ((reads_budget _ config.maxKeywords).member _) (.one rfl rfl ?_)
    exact (Reads.array fun parser _ => parser.reads levels).member _
  exact Record.reads hFills rfl

/-- A repository is read back from its document. So is whatever repository a document is read as: with
the document of that repository, the reading is the same again. -/
theorem RepositoryConfig.ofText_text_toJson :
    (∀ config : RepositoryConfig, ofText config.toJson.text = .ok config) ∧
      ∀ text : String, (ofText text >>= fun config => ofText config.toJson.text) = ofText text := by
  have hOwn : ∀ config : RepositoryConfig, ofText config.toJson.text = .ok config := by
    intro config
    have hReads := (config.reads 121).reads [] .done
    rw [List.append_nil] at hReads
    have hRun : decoder.run config.toJson.text.toList = .ok config := by
      rw [Value.text, String.toList_ofList, Decoder.run, readWhole, maxDepth, hReads]
      rfl
    rw [ofText, hRun]
  refine ⟨hOwn, fun text => ?_⟩
  cases hText : ofText text with
  | error fault => rfl
  | ok config => simp only [bind, Except.bind, hOwn]

end LogIngest

import LogIngest.Proofs.Field.Typing
import LogIngest.Proofs.Parser.FullMatches
import LogIngest.Proofs.Parser.Policies

/-!
What is found for fields in messages, said by their configuration alone: the text at the position of a
field, or what its group captures, goes through the converter of the field, and otherwise the field fails.
Main statement: a parser that is built finds just that for each of its fields, in their order.
-/

namespace LogIngest

/-- The tokens of a message that is cut at a delimiter, which is given as it is configured. -/
def tokensOf (delimiter message : String) : List String :=
  (Text.split (Delimited.unescape delimiter).toList message.toList).map String.ofList

theorem Properties.setting?_of_require {properties : Properties} {key owner setting : String}
    (h : properties.require key owner = .ok setting) : properties.setting? key = some setting := by
  unfold require at h
  split at h
  · next found hFound => rw [hFound, Except.ok.inj h]
  · cases h

namespace FieldConfig

/-- A field has a position, counted from one. -/
structure HasPosition (field : FieldConfig) (position : Nat) : Prop where
  configured : ∃ text, field.properties.setting? Property.position = some text ∧
    Bounds.word64.read (Text.trim text.toList) = .ok position
  positive : 0 < position

/-- A field is looked for by a pattern: its own one, which may match anywhere in a message, or else the one
of the parser, which has to match all of it. -/
inductive SoughtBy (field : FieldConfig) (parser : ParserConfig) : (source : String) → Pattern → Prop where
  | own {source : String} {pattern : Pattern}
      (configured : field.properties.setting? Property.pattern = some source)
      (compiled : Pattern.anywhere source = .ok pattern) : SoughtBy field parser source pattern
  | shared {source : String} {pattern : Pattern}
      (unset : field.properties.setting? Property.pattern = none)
      (configured : parser.properties.setting? Property.pattern = some source)
      (compiled : Pattern.whole source = .ok pattern) : SoughtBy field parser source pattern

/-- A group is the one that a field asks for. -/
def AsksFor (field : FieldConfig) (pattern : Pattern) (group : Nat) : Prop :=
  pattern.group field.name (field.properties.setting? Property.group) = .ok group

end FieldConfig

/-- The text of a field is located in a message, or there is none: a position may lie behind the last token,
and a pattern may find no match. A group that takes no part in a match has no text. -/
inductive Strategy.Locates (parser : ParserConfig) (field : FieldConfig) (message : String) :
    Strategy → Except FieldError (Option String) → Prop where
  | token {delimiter token : String} {position : Nat}
      (cut : parser.properties.setting? Property.delimiter = some delimiter)
      (placed : field.HasPosition position)
      (found : (tokensOf delimiter message)[position - 1]? = some token) :
      Locates parser field message delimited (.ok (some token))
  | noToken {delimiter : String} {position : Nat}
      (cut : parser.properties.setting? Property.delimiter = some delimiter)
      (placed : field.HasPosition position)
      (behind : (tokensOf delimiter message).length < position) :
      Locates parser field message delimited
        (.error (.positionOutOfRange position (tokensOf delimiter message).length))
  | captured {source : String} {pattern : Pattern} {group : Nat} {captures : Pattern.Captures}
      (sought : field.SoughtBy parser source pattern) (asked : field.AsksFor pattern group)
      (found : pattern.find? message = some captures) :
      Locates parser field message regex (.ok (captures.group? group))
  | noMatch {source : String} {pattern : Pattern}
      (sought : field.SoughtBy parser source pattern) (unmatched : pattern.find? message = none) :
      Locates parser field message regex (.error (.noMatch source))

/-- What is found for a field: its text, converted, or why there is no value. -/
inductive Strategy.Finds (strategy : Strategy) (parser : ParserConfig) (message : String)
    (field : FieldConfig) : String × Except FieldError FieldValue → Prop where
  | converted {converter : FieldConverter} {text : Option String}
      (made : FieldConverter.ofConfig field = .ok converter)
      (located : Locates parser field message strategy (.ok text)) :
      Finds strategy parser message field (field.name, converter.read text)
  | failed {error : FieldError} (located : Locates parser field message strategy (.error error)) :
      Finds strategy parser message field (field.name, .error error)

namespace Pattern

theorem source_of_ofText {edition : Edition} {source : String} {text : List Char} {pattern : Pattern}
    (h : ofText edition source text = .ok pattern) : pattern.source = source := by
  obtain ⟨_, -, h⟩ := bind_eq_ok (compile_of_ofText h)
  obtain ⟨_, -, h⟩ := bind_eq_ok h
  rw [← Except.ok.inj h]

theorem exists_whole_of_mapM {setting : Option String} {pattern : Pattern}
    (h : setting.mapM whole = .ok (some pattern)) :
    ∃ source, setting = some source ∧ whole source = .ok pattern := by
  cases setting with
  | none => cases h
  | some source => exact ⟨source, rfl, whole_of_mapM h rfl rfl⟩

end Pattern

namespace FieldConfig

variable {field : FieldConfig} {parser : ParserConfig}

theorem HasPosition.unique {position other : Nat} (h : field.HasPosition position)
    (hOther : field.HasPosition other) : position = other := by
  obtain ⟨⟨text, hText, hRead⟩, -⟩ := h
  obtain ⟨⟨otherText, hOtherText, hOtherRead⟩, -⟩ := hOther
  obtain rfl := Option.some.inj (hText.symm.trans hOtherText)
  exact Int.ofNat_inj.mp (Except.ok.inj (hRead.symm.trans hOtherRead))

theorem SoughtBy.unique {source other : String} {pattern otherPattern : Pattern}
    (h : field.SoughtBy parser source pattern) (hOther : field.SoughtBy parser other otherPattern) :
    source = other ∧ pattern = otherPattern := by
  cases h with
  | own hConfigured hCompiled =>
      cases hOther with
      | own hOtherConfigured hOtherCompiled =>
          obtain rfl := Option.some.inj (hConfigured.symm.trans hOtherConfigured)
          exact ⟨rfl, Except.ok.inj (hCompiled.symm.trans hOtherCompiled)⟩
      | shared hUnset _ _ => cases hConfigured.symm.trans hUnset
  | shared hUnset hConfigured hCompiled =>
      cases hOther with
      | own hOtherConfigured _ => cases hUnset.symm.trans hOtherConfigured
      | shared _ hOtherConfigured hOtherCompiled =>
          obtain rfl := Option.some.inj (hConfigured.symm.trans hOtherConfigured)
          exact ⟨rfl, Except.ok.inj (hCompiled.symm.trans hOtherCompiled)⟩

theorem SoughtBy.source_eq {source : String} {pattern : Pattern}
    (h : field.SoughtBy parser source pattern) : pattern.source = source := by
  cases h with
  | own _ hCompiled => exact Pattern.source_of_ofText hCompiled
  | shared _ _ hCompiled => exact Pattern.source_of_ofText hCompiled

/-- A position is counted from one in a configuration, and from zero in a parser. -/
theorem hasPosition_of_indexOf {index : Nat} (h : PositionedField.indexOf field = .ok index) :
    field.HasPosition (index + 1) := by
  simp only [PositionedField.indexOf] at h
  split at h
  · next counted hRead =>
      obtain rfl := Except.ok.inj h
      unfold Properties.natural? at hRead
      split at hRead
      · cases hRead
      · next text hText =>
          split at hRead
          · next n hNumber =>
              have hNat : n.toNat = counted + 1 := Option.some.inj (Except.ok.inj hRead)
              have hSame : n = (counted + 1 : Nat) := by omega
              exact ⟨⟨text, hText, hSame ▸ hNumber⟩, Nat.succ_pos _⟩
          · cases hRead
  · cases h
  · cases h

end FieldConfig

namespace Strategy

variable {strategy : Strategy} {parser : ParserConfig} {field : FieldConfig} {message : String}

theorem Locates.unique {text other : Except FieldError (Option String)}
    (h : Locates parser field message strategy text)
    (hOther : Locates parser field message strategy other) : text = other := by
  cases h with
  | token hCut hPlaced hFound =>
      cases hOther with
      | token hOtherCut hOtherPlaced hOtherFound =>
          obtain rfl := Option.some.inj (hCut.symm.trans hOtherCut)
          obtain rfl := hPlaced.unique hOtherPlaced
          rw [hFound.symm.trans hOtherFound]
      | noToken hOtherCut hOtherPlaced hBehind =>
          obtain rfl := Option.some.inj (hCut.symm.trans hOtherCut)
          obtain rfl := hPlaced.unique hOtherPlaced
          have hWithin := (List.getElem?_eq_some_iff.mp hFound).1
          omega
  | noToken hCut hPlaced hBehind =>
      cases hOther with
      | token hOtherCut hOtherPlaced hFound =>
          obtain rfl := Option.some.inj (hCut.symm.trans hOtherCut)
          obtain rfl := hPlaced.unique hOtherPlaced
          have hWithin := (List.getElem?_eq_some_iff.mp hFound).1
          omega
      | noToken hOtherCut hOtherPlaced _ =>
          obtain rfl := Option.some.inj (hCut.symm.trans hOtherCut)
          rw [hPlaced.unique hOtherPlaced]
  | captured hSought hAsked hFound =>
      cases hOther with
      | captured hOtherSought hOtherAsked hOtherFound =>
          obtain ⟨rfl, rfl⟩ := hSought.unique hOtherSought
          obtain rfl := Except.ok.inj (hAsked.symm.trans hOtherAsked)
          rw [Option.some.inj (hFound.symm.trans hOtherFound)]
      | noMatch hOtherSought hUnmatched =>
          obtain ⟨rfl, rfl⟩ := hSought.unique hOtherSought
          cases hFound.symm.trans hUnmatched
  | noMatch hSought hUnmatched =>
      cases hOther with
      | captured hOtherSought _ hFound =>
          obtain ⟨rfl, rfl⟩ := hSought.unique hOtherSought
          cases hUnmatched.symm.trans hFound
      | noMatch hOtherSought _ => rw [(hSought.unique hOtherSought).1]

/-- One outcome is found for a field. -/
theorem Finds.unique {outcome other : String × Except FieldError FieldValue}
    (h : strategy.Finds parser message field outcome) (hOther : strategy.Finds parser message field other) :
    outcome = other := by
  cases h with
  | converted hMade hLocated =>
      cases hOther with
      | converted hOtherMade hOtherLocated =>
          obtain rfl := Except.ok.inj (hMade.symm.trans hOtherMade)
          rw [Except.ok.inj (hLocated.unique hOtherLocated)]
      | failed hOtherLocated => cases hLocated.unique hOtherLocated
  | failed hLocated =>
      cases hOther with
      | converted _ hOtherLocated => cases hLocated.unique hOtherLocated
      | failed hOtherLocated => rw [Except.error.inj (hLocated.unique hOtherLocated)]

theorem finds_delimited {format : Delimited} (h : Delimited.ofConfig parser = .ok format) (message : String) :
    List.Forall₂ (delimited.Finds parser message) parser.fields (format.outcomes message) := by
  obtain ⟨delimiter, hDelimiter, h⟩ := bind_eq_ok h
  obtain ⟨fields, hFields, h⟩ := bind_eq_ok h
  obtain rfl := Except.ok.inj h
  have hCut := Properties.setting?_of_require hDelimiter
  rw [Delimited.outcomes, List.forall₂_map_right_iff]
  refine (forall₂_of_mapM_eq_ok hFields).imp ?_
  intro field positioned hPositioned
  obtain ⟨index, hIndex, hPositioned⟩ := bind_eq_ok hPositioned
  obtain ⟨converter, hConverter, hPositioned⟩ := bind_eq_ok hPositioned
  obtain rfl := Except.ok.inj hPositioned
  have hPlaced := FieldConfig.hasPosition_of_indexOf hIndex
  rw [(FieldConverter.serves_of_ofConfig hConverter).name]
  unfold PositionedField.read
  split
  · next token hToken => exact .converted hConverter (.token hCut hPlaced hToken)
  · next hNone =>
      have hBehind := Nat.lt_succ_of_le (List.getElem?_eq_none_iff.mp hNone)
      exact .failed (.noToken hCut hPlaced hBehind)

theorem soughtBy_of_sourceOf {shared : Option Pattern} {source : FieldSource} {pattern : Pattern}
    (hShared : (parser.properties.setting? Property.pattern).mapM Pattern.whole = .ok shared)
    (h : CapturedField.sourceOf shared field = .ok (source, pattern)) :
    ∃ text, field.SoughtBy parser text pattern ∧
      (source = .own pattern ∨ source = .shared ∧ shared = some pattern) := by
  unfold CapturedField.sourceOf at h
  cases hOwn : field.properties.setting? Property.pattern with
  | some text =>
      simp only [hOwn] at h
      obtain ⟨compiled, hCompiled, hBoth⟩ := map_eq_ok h
      obtain ⟨rfl, rfl⟩ := Prod.mk.inj hBoth
      exact ⟨text, .own hOwn hCompiled, .inl rfl⟩
  | none =>
      cases shared with
      | none => simp only [hOwn, reduceCtorEq] at h
      | some whole =>
          simp only [hOwn] at h
          obtain ⟨rfl, rfl⟩ := Prod.mk.inj (Except.ok.inj h)
          obtain ⟨text, hText, hWhole⟩ := Pattern.exists_whole_of_mapM hShared
          exact ⟨text, .shared hOwn hText hWhole, .inr ⟨rfl, rfl⟩⟩

/-- A match gives the text of a field, and without one the pattern is reported. -/
theorem finds_read {source : String} {pattern : Pattern} (captured : CapturedField)
    (hSought : field.SoughtBy parser source pattern) (hAsked : field.AsksFor pattern captured.group)
    (hMade : FieldConverter.ofConfig field = .ok captured.converter) (message : String) :
    regex.Finds parser message field
      (captured.converter.name, Matching.read captured pattern.source (pattern.find? message)) := by
  rw [(FieldConverter.serves_of_ofConfig hMade).name, hSought.source_eq]
  unfold Matching.read
  split
  · next captures hFound => exact .converted hMade (.captured hSought hAsked hFound)
  · next hUnmatched => exact .failed (.noMatch hSought hUnmatched)

theorem finds_regex {format : Matching} (h : Matching.ofConfig parser = .ok format) (message : String) :
    List.Forall₂ (regex.Finds parser message) parser.fields (format.outcomes message) := by
  obtain ⟨shared, hShared, h⟩ := bind_eq_ok h
  obtain ⟨fields, hFields, h⟩ := bind_eq_ok h
  obtain rfl := Except.ok.inj h
  rw [Matching.outcomes, List.forall₂_map_right_iff]
  refine (forall₂_of_mapM_eq_ok hFields).imp ?_
  intro field captured hCaptured
  obtain ⟨⟨source, pattern⟩, hSource, hCaptured⟩ := bind_eq_ok hCaptured
  obtain ⟨group, hGroup, hCaptured⟩ := bind_eq_ok hCaptured
  obtain ⟨converter, hConverter, hCaptured⟩ := bind_eq_ok hCaptured
  obtain rfl := Except.ok.inj hCaptured
  obtain ⟨text, hSought, rfl | ⟨rfl, rfl⟩⟩ := soughtBy_of_sourceOf hShared hSource
  · exact finds_read ⟨.own pattern, group, converter⟩ hSought hGroup hConverter message
  · exact finds_read ⟨.shared, group, converter⟩ hSought hGroup hConverter message

/-- A parser that is built finds one outcome for each of its fields, in their order. -/
theorem Fieldwise.finds (hStrategy : strategy.Fieldwise) {repository : RepositoryConfig}
    {tokenizer : Tokenizer} {built : EntryParser}
    (hBuild : strategy.build repository parser tokenizer = .ok built) (message : String) :
    List.Forall₂ (strategy.Finds parser message) parser.fields (strategy.outcomes parser message) := by
  cases hStrategy with
  | byDelimiter =>
      obtain ⟨format, core, hFormat, -, -⟩ := build_delimited_eq_ok_iff.mp hBuild
      rw [outcomes_delimited hFormat]
      exact finds_delimited hFormat message
  | byPatterns =>
      obtain ⟨format, core, hFormat, -, -⟩ := build_regex_eq_ok_iff.mp hBuild
      rw [outcomes_regex hFormat]
      exact finds_regex hFormat message

end Strategy
end LogIngest

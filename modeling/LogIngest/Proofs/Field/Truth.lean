import LogIngest.Proofs.Field.Narrowing
import LogIngest.Proofs.Pattern.Straight

/-!
Defaults of truth values. Main statement: what a field of truth values has for no text is what it has for the
text of its default exactly where its pattern tells that text as the word true does, which the standard pattern
always does.
-/

namespace LogIngest

/-- The text is the word true, in any case. -/
def SaysTrue (text : String) : Prop :=
  Text.sameIgnoringAsciiCase text.toList "true".toList = true

instance (text : String) : Decidable (SaysTrue text) :=
  inferInstanceAs (Decidable (_ = true))

/-- The program of the standard pattern has no branches: it takes the letters of the word one by one. -/
theorem program_standardTruth :
    (Pattern.whole FieldConverter.standardTruth).toOption.map Pattern.program =
      some (Pattern.straight ("true".toList.map CharSet.letter)) := by
  decide +kernel

theorem occursIn_standardTruth {pattern : Pattern}
    (h : Pattern.whole FieldConverter.standardTruth = .ok pattern) (text : String) :
    pattern.occursIn text = true ↔ SaysTrue text := by
  have hProgram := program_standardTruth
  rw [h] at hProgram
  have hWord : ∀ c ∈ "true".toList, c.isLower = true := List.all_eq_true.mp (by decide)
  rw [Pattern.occursIn, Option.some.inj hProgram, Pattern.isSome_search_straight_iff,
    Pattern.spells_letters_iff hWord, SaysTrue]

namespace FieldConverter

variable {field : FieldConfig} {converter : FieldConverter}

/-- A field of truth values that takes texts as they are has a value for everything. -/
structure Judges (converter : FieldConverter) (pattern : Pattern) (standIn : FieldValue) : Prop where
  present : ∀ text, converter.read (some text) = .ok (.boolean (pattern.occursIn text))
  absent : converter.read none = .ok standIn

theorem MadeFrom.judges (h : converter.MadeFrom field) (hType : field.dataType = .boolean)
    (hUncut : field.properties.setting? Property.preparsePattern = none) :
    ∃ pattern, Pattern.whole ((field.properties.setting? Property.truePattern).getD standardTruth) =
        .ok pattern ∧ converter.Judges pattern (defaultTruth field) := by
  have hConversion := h.conversion
  rw [FieldConfig.conversion, hType] at hConversion
  obtain ⟨pattern, hPattern, hTruth⟩ := map_eq_ok_iff.mp hConversion
  have hNarrowing := h.narrowing
  rw [Narrowing.ofConfig, hUncut] at hNarrowing
  have hDefault := h.standIn
  rw [FieldConfig.standIn, hType] at hDefault
  refine ⟨pattern, hPattern, ?_⟩
  constructor
  case present =>
    intro text
    unfold read passesOver readStrictly narrow
    rw [← hTruth, ← Except.ok.inj hDefault, ← Except.ok.inj hNarrowing]
    rfl
  case absent =>
    unfold read
    rw [← Except.ok.inj hDefault]
    rfl

theorem defaultTruth_of_setting {text : String}
    (h : field.properties.setting? Property.defaultValue = some text) :
    defaultTruth field = .boolean (decide (SaysTrue (trimmed text))) := by
  simp [defaultTruth, h, SaysTrue, trimmed]

/-- The default of a field of truth values is not read as its texts are: it is looked at for the word true,
whatever the pattern of the field is. So the field has for no text what it has for the text of its default exactly
if the pattern tells that text as the word does. -/
theorem read_none_eq_read_default_iff {text : String} (h : ofConfig field = .ok converter)
    (hType : field.dataType = .boolean)
    (hDefault : field.properties.setting? Property.defaultValue = some text)
    (hUncut : field.properties.setting? Property.preparsePattern = none) :
    ∃ pattern, Pattern.whole ((field.properties.setting? Property.truePattern).getD standardTruth) =
        .ok pattern ∧
      (converter.read none = converter.read (some (trimmed text)) ↔
        (SaysTrue (trimmed text) ↔ pattern.occursIn (trimmed text) = true)) ∧
      (field.properties.setting? Property.truePattern = none →
        converter.read none = converter.read (some (trimmed text))) := by
  obtain ⟨pattern, hPattern, hJudges⟩ := (ofConfig_eq_ok_iff.mp h).judges hType hUncut
  have hLaw : converter.read none = converter.read (some (trimmed text)) ↔
      (SaysTrue (trimmed text) ↔ pattern.occursIn (trimmed text) = true) := by
    rw [hJudges.absent, hJudges.present, defaultTruth_of_setting hDefault, Except.ok.injEq,
      FieldValue.boolean.injEq, Bool.eq_iff_iff, decide_eq_true_iff]
  refine ⟨pattern, hPattern, hLaw, ?_⟩
  intro hStandard
  rw [hStandard] at hPattern
  exact hLaw.mpr (occursIn_standardTruth hPattern _).symm

/-- A field of truth values with a pattern of its own and a default. -/
def answerField (pattern default : String) : FieldConfig where
  name := "answer"
  dataType := .boolean
  properties := .ofList [(Property.truePattern, pattern), (Property.defaultValue, default)]

/-- A default that says true is read like the text, where the pattern has the word true among others. -/
theorem read_none_eq_read_default_true :
    ∃ converter, ofConfig (answerField "yes|(?i:true)" " True ") = .ok converter ∧
      converter.read none = converter.read (some "True") := by
  have hMade : (ofConfig (answerField "yes|(?i:true)" " True ")).toOption.isSome = true := by
    decide +kernel
  have hFound : (Pattern.whole "yes|(?i:true)").toOption.map (·.occursIn "True") = some true := by
    decide +kernel
  have hDefault : (answerField "yes|(?i:true)" " True ").properties.setting? Property.defaultValue =
      some " True " := by decide +kernel
  have hUncut : (answerField "yes|(?i:true)" " True ").properties.setting? Property.preparsePattern =
      none := by decide +kernel
  have hTrimmed : trimmed " True " = "True" := by decide +kernel
  obtain ⟨converter, hMade⟩ := Option.isSome_iff_exists.mp hMade
  have hConverter := eq_ok_of_toOption hMade
  obtain ⟨pattern, hPattern, hLaw, -⟩ := read_none_eq_read_default_iff hConverter rfl hDefault hUncut
  have hSetting : (answerField "yes|(?i:true)" " True ").properties.setting? Property.truePattern =
      some "yes|(?i:true)" := by decide +kernel
  rw [hSetting, Option.getD_some] at hPattern
  rw [hPattern] at hFound
  rw [hTrimmed] at hLaw
  have hSays : SaysTrue "True" := by decide
  exact ⟨converter, hConverter, hLaw.mpr (iff_of_true hSays (Option.some.inj hFound))⟩

/-- A field whose texts are true when they say yes has a default that says yes, and is false for no text. -/
theorem not_read_none_eq_read_default_yes :
    ¬∀ field converter text, ofConfig field = .ok converter → field.dataType = .boolean →
      field.properties.setting? Property.defaultValue = some text →
        field.properties.setting? Property.preparsePattern = none →
          converter.read none = converter.read (some (trimmed text)) := by
  intro hLaw
  have hRun : (ofConfig (answerField "yes" "yes")).toOption.map (fun converter =>
      ((converter.read none).toOption.map FieldValue.text,
        (converter.read (some (trimmed "yes"))).toOption.map FieldValue.text)) =
        some (some "false", some "true") := by
    decide +kernel
  obtain ⟨converter, hMade, hReads⟩ := Option.map_eq_some_iff.mp hRun
  have hSame := hLaw (answerField "yes" "yes") converter "yes" (eq_ok_of_toOption hMade) rfl
    (by decide +kernel) (by decide +kernel)
  rw [hSame, Prod.mk.injEq] at hReads
  have hBoth : some "false" = some "true" := hReads.1.symm.trans hReads.2
  exact absurd hBoth (by decide)

end FieldConverter
end LogIngest

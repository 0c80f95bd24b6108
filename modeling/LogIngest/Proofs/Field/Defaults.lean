import LogIngest.Proofs.Field.Narrowing
import LogIngest.Proofs.Field.Typing

/-!
Fields with a default. Main statement: such a field has a value for every text and for none. It is the
default, read as if it were a text of the field, wherever the same field without it has no value, and wherever
that has a blank text; otherwise it is the value of the same field without the default.
-/

namespace LogIngest

/-- A value is a text, and a blank one. -/
def FieldValue.IsBlankText : FieldValue → Prop
  | string s => blank s = true
  | _ => False

/-- The value of a text is passed over exactly when it is a blank text. -/
theorem Conversion.ignores_iff {conversion : Conversion} {input : String} {found : FieldValue}
    (h : conversion.convert input = .ok found) :
    conversion.ignores input = true ↔ found.IsBlankText := by
  have hType := dataType?_convert h
  cases found with
  | string s =>
      cases conversion with
      | text =>
          cases h
          exact Iff.rfl
      | number type format => cases type <;> cases hType
      | truth pattern => cases hType
      | date format => cases hType
  | null | array items | object members => cases hType
  | integer n | long n | double x | boolean b | date instant =>
      cases conversion with
      | text => cases hType
      | number type format => exact ⟨nofun, nofun⟩
      | truth pattern => exact ⟨nofun, nofun⟩
      | date format => exact ⟨nofun, nofun⟩

namespace FieldConverter

variable {field : FieldConfig} {converter strict : FieldConverter} {value : FieldValue}

/-- A converter has a value for everything: where a strict one has none, or a blank text, a certain value, and
otherwise the value of the strict one. -/
structure FillsIn (converter strict : FieldConverter) (value : FieldValue) : Prop where
  total : ∀ text, ∃ found, converter.read text = .ok found
  absent : converter.read none = .ok value
  failed : ∀ text error, strict.read text = .error error → converter.read text = .ok value
  kept : ∀ text found, strict.read text = .ok found → ¬found.IsBlankText →
    converter.read text = .ok found
  blank : ∀ text found, strict.read text = .ok found → found.IsBlankText →
    converter.read text = .ok value

/-- The converter that fails where it has no value of its own. -/
def strictly (converter : FieldConverter) : FieldConverter :=
  { converter with default := none }

theorem MadeFrom.strictly (h : converter.MadeFrom field) (hType : field.dataType ≠ .boolean) :
    converter.strictly.MadeFrom (field.without Property.defaultValue) where
  name := h.name
  conversion := by
    rw [FieldConfig.conversion_without (by decide)]
    exact h.conversion
  narrowing := by
    rw [FieldConfig.narrowing_without (by decide)]
    exact h.narrowing
  standIn := FieldConfig.standIn_without_default hType converter.conversion

/-- Texts that are passed over are those that a field of texts has as blank values. -/
theorem passesOver_iff {text : Option String} {found : FieldValue}
    (h : converter.strictly.read text = .ok found) :
    converter.passesOver text = true ↔ found.IsBlankText := by
  cases text with
  | none => cases h
  | some text => exact Conversion.ignores_iff h

theorem read_strictly (converter : FieldConverter) (text : Option String) :
    converter.strictly.read text = converter.readStrictly text :=
  rfl

theorem fillsIn_strictly (h : converter.default = some value) :
    converter.FillsIn converter.strictly value := by
  have hFailed : ∀ text error, converter.strictly.read text = .error error →
      converter.read text = .ok value := by
    intro text error hError
    rw [read_strictly] at hError
    simp only [read, h, hError, ite_self]
  have hKept : ∀ text found, converter.strictly.read text = .ok found → ¬found.IsBlankText →
      converter.read text = .ok found := by
    intro text found hFound hText
    have hConverted := mt (passesOver_iff hFound).mp hText
    rw [read_strictly] at hFound
    simp only [read, h, hFound, if_neg hConverted]
  have hBlank : ∀ text found, converter.strictly.read text = .ok found → found.IsBlankText →
      converter.read text = .ok value := by
    intro text found hFound hText
    have hPassed := (passesOver_iff hFound).mpr hText
    simp only [read, h, hPassed, if_true]
  refine ⟨?_, hFailed none .missingValue rfl, hFailed, hKept, hBlank⟩
  intro text
  cases hStrict : converter.strictly.read text with
  | error error => exact ⟨value, hFailed text error hStrict⟩
  | ok found =>
      by_cases hText : found.IsBlankText
      · exact ⟨value, hBlank text found hStrict hText⟩
      · exact ⟨found, hKept text found hStrict hText⟩

/-- The default of a field is converted like a text that is not cut down. -/
theorem MadeFrom.exists_default {text : String} (h : converter.MadeFrom field)
    (hType : field.dataType ≠ .boolean)
    (hDefault : field.properties.setting? Property.defaultValue = some text) :
    ∃ value, converter.conversion.convert text = .ok value ∧ converter.default = some value := by
  have hStandIn : defaultValue field converter.conversion = .ok converter.default := by
    rw [← h.standIn, FieldConfig.standIn_of_ne hType]
  simp only [defaultValue, hDefault] at hStandIn
  split at hStandIn
  · next value hValue => exact ⟨value, hValue, (Except.ok.inj hStandIn).symm⟩
  · cases hStandIn

/-- A field of any type but a truth value that has a default has a converter without it too, and has a value
for everything. What stands in is the default as the field itself reads it, cut down by nothing. Only a field
of texts has blank texts as values: those that are blank when they have been cut down. -/
theorem fillsIn_of_default {text : String} (h : ofConfig field = .ok converter)
    (hType : field.dataType ≠ .boolean)
    (hDefault : field.properties.setting? Property.defaultValue = some text) :
    ∃ strict plain value,
      ofConfig (field.without Property.defaultValue) = .ok strict ∧
        ofConfig ((field.without Property.defaultValue).without Property.preparsePattern) = .ok plain ∧
        plain.read (some text) = .ok value ∧ converter.FillsIn strict value ∧
        (field.dataType = .string →
          ∀ input, strict.read (some input) = .ok (.string (converter.narrow input))) := by
  have hMade := ofConfig_eq_ok_iff.mp h
  have hStrict := hMade.strictly hType
  obtain ⟨value, hValue, hStandIn⟩ := hMade.exists_default hType hDefault
  refine ⟨converter.strictly, converter.strictly.unnarrowed, value, ofConfig_eq_ok_iff.mpr hStrict,
    ofConfig_eq_ok_iff.mpr hStrict.unnarrowed, hValue, fillsIn_strictly hStandIn, ?_⟩
  intro hText
  exact hStrict.read_text hText (by simp [FieldConfig.setting?_without])

/-- A field of numbers whose texts are cut down to their first digits. Its default is not. -/
def groupedField : FieldConfig where
  name := "bytes"
  dataType := .long
  properties := .ofList [(Property.numberFormat, "#,##0"), (Property.preparsePattern, "[0-9]+"),
    (Property.preparseGroup, "0"), (Property.defaultValue, " 1,000 ")]

theorem fillsIn_of_default_uncut :
    ∃ converter strict value, ofConfig groupedField = .ok converter ∧
      ofConfig (groupedField.without Property.defaultValue) = .ok strict ∧
      converter.FillsIn strict value ∧ value.text = "1000" ∧
      (strict.read (some "many")).toOption.isNone = true ∧ converter.read (some "many") = .ok value ∧
      (converter.read (some "1,000")).toOption.map FieldValue.text = some "1" := by
  have hRun : (ofConfig groupedField).toOption.map (fun converter =>
      (converter.read (some "1,000")).toOption.map FieldValue.text) = some (some "1") := by
    decide +kernel
  have hStrictRun : (ofConfig (groupedField.without Property.defaultValue)).toOption.map (fun strict =>
      (strict.read (some "many")).toOption.isNone) = some true := by
    decide +kernel
  have hPlainRun : (ofConfig ((groupedField.without Property.defaultValue).without
      Property.preparsePattern)).toOption.bind (fun plain =>
        (plain.read (some " 1,000 ")).toOption.map FieldValue.text) = some "1000" := by
    decide +kernel
  have hDefault : groupedField.properties.setting? Property.defaultValue = some " 1,000 " := by
    decide +kernel
  obtain ⟨converter, hMade, hRead⟩ := Option.map_eq_some_iff.mp hRun
  have hConverter := eq_ok_of_toOption hMade
  obtain ⟨strict, plain, value, hStrict, hPlain, hValue, hFills, -⟩ :=
    fillsIn_of_default hConverter (by decide) hDefault
  rw [hPlain] at hPlainRun
  simp only [Except.toOption, Option.bind_some, hValue, Option.map_some, Option.some.injEq] at hPlainRun
  rw [hStrict] at hStrictRun
  have hNone := Option.some.inj hStrictRun
  obtain ⟨error, hError⟩ := exists_eq_error_of_toOption (Option.isNone_iff_eq_none.mp hNone)
  exact ⟨converter, strict, value, hConverter, hStrict, hFills, hPlainRun, hNone,
    hFills.failed _ _ hError, hRead⟩

end FieldConverter
end LogIngest

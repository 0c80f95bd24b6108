import LogIngest.Field.Converter
import Mathlib.Tactic.MkIffOfInductiveProp
import LogIngest.Proofs.Dictionary
import LogIngest.Proofs.Fallible

/-!
Converters and the settings of their fields. Main statement: a field has a converter exactly when its
conversion, its narrowing and its default can be made, each from settings of its own; so a field without one
of its settings has a converter that differs in what is made of that setting.
-/

namespace LogIngest

namespace FieldConfig

/-- A field without one of its properties. -/
def without (field : FieldConfig) (key : String) : FieldConfig :=
  { field with properties := field.properties.erase key }

theorem setting?_without (field : FieldConfig) (key k : String) :
    (field.without key).properties.setting? k =
      if k = key then none else field.properties.setting? k := by
  unfold without Properties.setting?
  rw [Dictionary.get?_erase]
  by_cases hk : k = key <;> simp [hk]

theorem setting?_without_of_ne {key k : String} (h : k ≠ key) (field : FieldConfig) :
    (field.without key).properties.setting? k = field.properties.setting? k := by
  rw [setting?_without, if_neg h]

/-- The conversion of a field of numbers. -/
def numberConversion (field : FieldConfig) (type : NumberType) : Except SetupError Conversion :=
  ((field.properties.setting? Property.numberFormat).mapM NumberFormat.ofPattern).map
    (Conversion.number type)

/-- How the texts of a field are converted. -/
def conversion (field : FieldConfig) : Except SetupError Conversion :=
  match field.dataType with
  | .string => .ok .text
  | .integer => field.numberConversion .integer
  | .long => field.numberConversion .long
  | .double => field.numberConversion .double
  | .boolean =>
    (Pattern.whole ((field.properties.setting? Property.truePattern).getD
      FieldConverter.standardTruth)).map .truth
  | .date =>
    (DateFormat.ofPattern
      ((field.properties.setting? Property.dateFormat).getD DateFormat.standardPattern)
      (field.properties.setting? Property.dateTimezone)).map .date

/-- What stands in for a value of a field. For a truth value there is always something. -/
def standIn (field : FieldConfig) (conversion : Conversion) : Except SetupError (Option FieldValue) :=
  match field.dataType with
  | .boolean => .ok (some (FieldConverter.defaultTruth field))
  | _ => FieldConverter.defaultValue field conversion

theorem standIn_of_ne {field : FieldConfig} (hType : field.dataType ≠ .boolean) (conversion : Conversion) :
    field.standIn conversion = FieldConverter.defaultValue field conversion := by
  unfold standIn
  split
  · next hTruth => exact absurd hTruth hType
  · rfl

/-- The conversion depends on these properties only. -/
theorem conversion_without {key : String}
    (h : key ∉ [Property.numberFormat, Property.truePattern, Property.dateFormat, Property.dateTimezone])
    (field : FieldConfig) : (field.without key).conversion = field.conversion := by
  simp only [List.mem_cons, List.not_mem_nil, or_false, not_or] at h
  obtain ⟨hNumber, hTruth, hDate, hZone⟩ := h
  simp only [conversion, numberConversion, setting?_without_of_ne (Ne.symm hNumber),
    setting?_without_of_ne (Ne.symm hTruth), setting?_without_of_ne (Ne.symm hDate),
    setting?_without_of_ne (Ne.symm hZone)]
  rfl

theorem narrowing_without {key : String} (h : key ∉ [Property.preparsePattern, Property.preparseGroup])
    (field : FieldConfig) : Narrowing.ofConfig (field.without key) = Narrowing.ofConfig field := by
  simp only [List.mem_cons, List.not_mem_nil, or_false, not_or] at h
  simp only [Narrowing.ofConfig, setting?_without_of_ne (Ne.symm h.1),
    setting?_without_of_ne (Ne.symm h.2)]
  rfl

theorem narrowing_without_pattern (field : FieldConfig) :
    Narrowing.ofConfig (field.without Property.preparsePattern) = .ok none := by
  simp [Narrowing.ofConfig, setting?_without]

theorem standIn_without {key : String} (h : key ≠ Property.defaultValue) (field : FieldConfig)
    (conversion : Conversion) : (field.without key).standIn conversion = field.standIn conversion := by
  simp only [standIn, FieldConverter.defaultValue, FieldConverter.defaultTruth,
    setting?_without_of_ne (Ne.symm h)]
  rfl

theorem standIn_without_default {field : FieldConfig} (hType : field.dataType ≠ .boolean)
    (conversion : Conversion) : (field.without Property.defaultValue).standIn conversion = .ok none := by
  have hOther : (field.without Property.defaultValue).dataType ≠ .boolean := hType
  rw [standIn_of_ne hOther]
  simp [FieldConverter.defaultValue, setting?_without]

end FieldConfig

namespace FieldConverter

/-- The parts of a converter are made from the settings of a field. -/
@[mk_iff]
structure MadeFrom (converter : FieldConverter) (field : FieldConfig) : Prop where
  name : converter.name = field.name
  conversion : field.conversion = .ok converter.conversion
  narrowing : Narrowing.ofConfig field = .ok converter.narrowing
  standIn : field.standIn converter.conversion = .ok converter.default

variable {field : FieldConfig} {converter : FieldConverter}

theorem number_eq_ok_iff {type : NumberType} :
    number field type = .ok converter ↔
      converter.name = field.name ∧ field.numberConversion type = .ok converter.conversion ∧
        Narrowing.ofConfig field = .ok converter.narrowing ∧
        defaultValue field converter.conversion = .ok converter.default := by
  obtain ⟨name, narrowing, conversion, default⟩ := converter
  simp only [number, FieldConfig.numberConversion, bind_eq_ok_iff, map_eq_ok_iff, pure, Except.pure,
    Except.ok.injEq, mk.injEq]
  constructor
  · rintro ⟨format, hFormat, _, hNarrowing, _, hDefault, rfl, rfl, rfl, rfl⟩
    exact ⟨rfl, ⟨format, hFormat, rfl⟩, hNarrowing, hDefault⟩
  · rintro ⟨rfl, ⟨format, hFormat, rfl⟩, hNarrowing, hDefault⟩
    exact ⟨format, hFormat, narrowing, hNarrowing, default, hDefault, rfl, rfl, rfl, rfl⟩

/-- The parts are made in an order that depends on the type, which decides which fault is reported; that
there is none does not depend on it. -/
theorem ofConfig_eq_ok_iff : ofConfig field = .ok converter ↔ converter.MadeFrom field := by
  rw [madeFrom_iff]
  unfold ofConfig FieldConfig.conversion FieldConfig.standIn
  cases field.dataType with
  | integer => exact number_eq_ok_iff
  | long => exact number_eq_ok_iff
  | double => exact number_eq_ok_iff
  | string =>
      obtain ⟨name, narrowing, conversion, default⟩ := converter
      simp only [bind_eq_ok_iff, pure, Except.pure, Except.ok.injEq, mk.injEq]
      constructor
      · rintro ⟨_, hNarrowing, _, hDefault, rfl, rfl, rfl, rfl⟩
        exact ⟨rfl, rfl, hNarrowing, hDefault⟩
      · rintro ⟨rfl, rfl, hNarrowing, hDefault⟩
        exact ⟨narrowing, hNarrowing, default, hDefault, rfl, rfl, rfl, rfl⟩
  | boolean =>
      obtain ⟨name, narrowing, conversion, default⟩ := converter
      simp only [bind_eq_ok_iff, map_eq_ok_iff, pure, Except.pure, Except.ok.injEq, mk.injEq]
      constructor
      · rintro ⟨_, hNarrowing, pattern, hPattern, rfl, rfl, rfl, rfl⟩
        exact ⟨rfl, ⟨pattern, hPattern, rfl⟩, hNarrowing, rfl⟩
      · rintro ⟨rfl, ⟨pattern, hPattern, rfl⟩, hNarrowing, rfl⟩
        exact ⟨narrowing, hNarrowing, pattern, hPattern, rfl, rfl, rfl, rfl⟩
  | date =>
      obtain ⟨name, narrowing, conversion, default⟩ := converter
      simp only [bind_eq_ok_iff, map_eq_ok_iff, pure, Except.pure, Except.ok.injEq, mk.injEq]
      constructor
      · rintro ⟨format, hFormat, _, hDefault, _, hNarrowing, rfl, rfl, rfl, rfl⟩
        exact ⟨rfl, ⟨format, hFormat, rfl⟩, hNarrowing, hDefault⟩
      · rintro ⟨rfl, ⟨format, hFormat, rfl⟩, hNarrowing, hDefault⟩
        exact ⟨format, hFormat, default, hDefault, narrowing, hNarrowing, rfl, rfl, rfl, rfl⟩

/-- A field of texts has what is left of a text as its value, blank or not, unless it has a default. -/
theorem MadeFrom.read_text (h : converter.MadeFrom field) (hType : field.dataType = .string)
    (hUnset : field.properties.setting? Property.defaultValue = none) (text : String) :
    converter.read (some text) = .ok (.string (converter.narrow text)) := by
  have hConversion : converter.conversion = .text := by
    have hText := h.conversion
    rw [FieldConfig.conversion, hType] at hText
    exact (Except.ok.inj hText).symm
  have hNone : converter.default = none := by
    have hStandIn := h.standIn
    rw [FieldConfig.standIn_of_ne (by rw [hType]; decide), defaultValue, hUnset] at hStandIn
    exact (Except.ok.inj hStandIn).symm
  unfold read
  rw [hNone]
  simp only [readStrictly, hConversion, Conversion.convert]

end FieldConverter
end LogIngest

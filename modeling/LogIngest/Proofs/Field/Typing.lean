import LogIngest.Field.Converter
import LogIngest.Proofs.Fallible

/-!
The types of field values. Main statement: whatever a converter makes of a text, a value of it has the
data type that the field was configured with, also where a default stands in.
-/

namespace LogIngest

/-- The data type that a value has; nulls, arrays and objects have none that a field can ask for. -/
def FieldValue.dataType? : FieldValue → Option DataType
  | string _ => some .string
  | integer _ => some .integer
  | long _ => some .long
  | double _ => some .double
  | boolean _ => some .boolean
  | date _ => some .date
  | null | array _ | object _ => none

namespace NumberType

variable {type : NumberType} {text : String} {value : FieldValue}

theorem dataType?_ofInt {n : Int} (h : type.ofInt text n = .ok value) :
    value.dataType? = some type.dataType := by
  cases type with
  | integer =>
      simp only [ofInt] at h
      split at h
      · cases h
        rfl
      · cases h
  | long =>
      simp only [ofInt] at h
      split at h
      · cases h
        rfl
      · cases h
  | double =>
      cases h
      rfl

theorem dataType?_ofPlain (h : type.ofPlain text = .ok value) :
    value.dataType? = some type.dataType := by
  unfold ofPlain at h
  split at h
  · split at h
    · cases h
      rfl
    · cases h
  · obtain ⟨n, -, hValue⟩ := bind_eq_ok h
    exact dataType?_ofInt hValue

theorem dataType?_ofAmount {amount : Amount} (h : type.ofAmount text amount = .ok value) :
    value.dataType? = some type.dataType := by
  unfold ofAmount at h
  split at h
  · cases h
    rfl
  · exact dataType?_ofInt h
  · split at h
    · exact dataType?_ofInt h
    · cases h

end NumberType

/-- A conversion yields values of its type only. -/
theorem Conversion.dataType?_convert {conversion : Conversion} {input : String} {value : FieldValue}
    (h : conversion.convert input = .ok value) : value.dataType? = some conversion.dataType := by
  cases conversion with
  | text =>
      cases h
      rfl
  | number type format =>
      cases format with
      | none => exact NumberType.dataType?_ofPlain h
      | some format =>
          obtain ⟨amount, -, hValue⟩ := bind_eq_ok h
          exact NumberType.dataType?_ofAmount hValue
  | truth pattern =>
      cases h
      rfl
  | date format =>
      obtain ⟨instant, -, rfl⟩ := map_eq_ok h
      rfl

namespace FieldConverter

/-- The converter has the name and the type of a configured field, and its default is of that type. -/
structure Serves (converter : FieldConverter) (field : FieldConfig) : Prop where
  name : converter.name = field.name
  type : converter.dataType = field.dataType
  default : ∀ value, converter.default = some value → value.dataType? = some field.dataType

theorem dataType?_defaultValue {field : FieldConfig} {conversion : Conversion}
    {default : Option FieldValue} (h : defaultValue field conversion = .ok default) :
    ∀ value, default = some value → value.dataType? = some conversion.dataType := by
  intro value hDefault
  unfold defaultValue at h
  split at h
  · cases h
    cases hDefault
  · split at h
    · next hConvert =>
        cases h
        cases hDefault
        exact Conversion.dataType?_convert hConvert
    · cases h

theorem serves_of_number {field : FieldConfig} {type : NumberType} {converter : FieldConverter}
    (hType : field.dataType = type.dataType) (h : number field type = .ok converter) :
    converter.Serves field := by
  obtain ⟨format, -, h⟩ := bind_eq_ok h
  obtain ⟨narrowing, -, h⟩ := bind_eq_ok h
  obtain ⟨default, hDefault, h⟩ := bind_eq_ok h
  obtain rfl := Except.ok.inj h
  refine ⟨rfl, hType.symm, ?_⟩
  rw [hType]
  exact dataType?_defaultValue hDefault

/-- A converter serves the field for which it was configured. -/
theorem serves_of_ofConfig {field : FieldConfig} {converter : FieldConverter}
    (h : ofConfig field = .ok converter) : converter.Serves field := by
  unfold ofConfig at h
  split at h
  · next hType =>
      obtain ⟨narrowing, -, h⟩ := bind_eq_ok h
      obtain ⟨default, hDefault, h⟩ := bind_eq_ok h
      obtain rfl := Except.ok.inj h
      refine ⟨rfl, hType.symm, ?_⟩
      rw [hType]
      exact dataType?_defaultValue hDefault
  · next hType => exact @serves_of_number field .integer converter hType h
  · next hType => exact @serves_of_number field .long converter hType h
  · next hType => exact @serves_of_number field .double converter hType h
  · next hType =>
      obtain ⟨narrowing, -, h⟩ := bind_eq_ok h
      obtain ⟨pattern, -, h⟩ := bind_eq_ok h
      obtain rfl := Except.ok.inj h
      refine ⟨rfl, hType.symm, ?_⟩
      intro value hDefault
      obtain rfl := Option.some.inj hDefault
      rw [hType]
      rfl
  · next hType =>
      obtain ⟨format, -, h⟩ := bind_eq_ok h
      obtain ⟨default, hDefault, h⟩ := bind_eq_ok h
      obtain ⟨narrowing, -, h⟩ := bind_eq_ok h
      obtain rfl := Except.ok.inj h
      refine ⟨rfl, hType.symm, ?_⟩
      rw [hType]
      exact dataType?_defaultValue hDefault

/-- A value of a field has the type of the field. -/
theorem Serves.dataType?_read {converter : FieldConverter} {field : FieldConfig}
    (hServes : converter.Serves field) {text : Option String} {value : FieldValue}
    (h : converter.read text = .ok value) : value.dataType? = some field.dataType := by
  have hStrictly : ∀ found, converter.readStrictly text = .ok found →
      found.dataType? = some field.dataType := by
    intro found hFound
    cases text with
    | none => cases hFound
    | some text =>
        rw [← hServes.type]
        exact Conversion.dataType?_convert hFound
  unfold read at h
  split at h
  · exact hStrictly value h
  · next default hDefault =>
      have hValue : default.dataType? = some field.dataType := hServes.default default hDefault
      split at h
      · cases h
        exact hValue
      · split at h
        · next found hFound =>
            cases h
            exact hStrictly _ hFound
        · cases h
          exact hValue

end FieldConverter
end LogIngest

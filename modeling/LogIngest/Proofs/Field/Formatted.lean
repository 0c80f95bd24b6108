import LogIngest.Field.Converter
import LogIngest.Proofs.Decimal.Numeral
import LogIngest.Proofs.Fallible
import LogIngest.Proofs.Number.Scanning

/-!
Fields of numbers with a format. Main statement: whatever texts stand around the placeholders of a pattern,
when they are quoted the pattern compiles, and the fields with it read each whole number of 64 bits that is
written between these texts as that number, whole ones of 32 bits as far as it fits.
-/

namespace LogIngest

open Text (quotedLiteral)
open NumberFormat (IsBody Writes Extends)

/-- A field of numbers that are written in a format. Its texts are read as they are, not cut down first. -/
structure FieldConfig.UsesFormat (field : FieldConfig) (type : NumberType) (pattern : String) :
    Prop where
  type : field.dataType = type.dataType
  format : field.properties.setting? Property.numberFormat = some pattern
  uncut : field.properties.setting? Property.preparsePattern = none

namespace NumberType

variable {text : String} {n : Int}

theorem ofInt_long (h : -9223372036854775808 ≤ n ∧ n ≤ 9223372036854775807) :
    long.ofInt text n = .ok (.long (Int64.ofInt n)) :=
  if_pos (Bounds.admits_iff.mpr h)

theorem ofInt_long_tooLarge (h : ¬(-9223372036854775808 ≤ n ∧ n ≤ 9223372036854775807)) :
    long.ofInt text n = .error (.numberOutOfRange text "long") :=
  if_neg (mt Bounds.admits_iff.mp h)

theorem ofInt_integer (h : -2147483648 ≤ n ∧ n ≤ 2147483647) :
    integer.ofInt text n = .ok (.integer (Int32.ofInt n)) :=
  if_pos (Bounds.admits_iff.mpr h)

theorem ofInt_integer_tooLarge (h : ¬(-2147483648 ≤ n ∧ n ≤ 2147483647)) :
    integer.ofInt text n = .error (.numberOutOfRange text "integer") :=
  if_neg (mt Bounds.admits_iff.mp h)

end NumberType

namespace FieldConverter

/-- The text that the number of a field is read from. -/
def given (converter : FieldConverter) (input : String) : String :=
  trimmed (converter.narrow input)

/-- The value of a field with an outcome of its text: a default stands in for an error. -/
def orDefault (converter : FieldConverter) (outcome : Except FieldError FieldValue) :
    Except FieldError FieldValue :=
  match outcome with
  | .ok value => .ok value
  | .error cause => converter.default.elim (.error cause) .ok

variable {field : FieldConfig} {converter : FieldConverter} {type : NumberType} {pattern : String}
  {format : NumberFormat} {format? : Option NumberFormat}

theorem mapM_ofPattern (hFormat : field.properties.setting? Property.numberFormat = some pattern)
    (hPattern : NumberFormat.ofPattern pattern = .ok format) :
    (field.properties.setting? Property.numberFormat).mapM NumberFormat.ofPattern = .ok (some format) := by
  rw [hFormat, Option.mapM_some, hPattern]
  rfl

theorem ofConfig_number (hType : field.dataType = type.dataType) :
    ofConfig field = number field type := by
  unfold ofConfig
  rw [hType]
  cases type <;> rfl

/-- The converter of a field of numbers is made up of its parts. -/
theorem eq_of_ofConfig (hType : field.dataType = type.dataType)
    (hFormat : (field.properties.setting? Property.numberFormat).mapM NumberFormat.ofPattern = .ok format?)
    (h : ofConfig field = .ok converter) :
    ∃ narrowing default, Narrowing.ofConfig field = .ok narrowing ∧
      converter = { name := field.name, narrowing, conversion := .number type format?, default } := by
  rw [ofConfig_number hType, number, hFormat] at h
  obtain ⟨_, hSame, hRest⟩ := bind_eq_ok h
  obtain rfl := Except.ok.inj hSame
  obtain ⟨narrowing, hNarrowing, hRest⟩ := bind_eq_ok hRest
  obtain ⟨default, -, hConverter⟩ := bind_eq_ok hRest
  exact ⟨narrowing, default, hNarrowing, (Except.ok.inj hConverter).symm⟩

theorem readStrictly_format (h : converter.conversion = .number type (some format)) (input : String) :
    converter.readStrictly (some input) =
      format.read (converter.given input) >>= type.ofAmount (converter.given input) := by
  simp only [readStrictly, h, Conversion.convert, given]

/-- A default of a number stands in for an error only. -/
theorem read_number (h : converter.conversion = .number type format?) (input : String) :
    converter.read (some input) = converter.orDefault (converter.readStrictly (some input)) := by
  have hTaken : converter.passesOver (some input) = false := by
    simp [passesOver, h, Conversion.ignores]
  unfold read orDefault
  rw [hTaken]
  cases converter.default <;> cases converter.readStrictly (some input) <;> rfl

/-- A field whose pattern compiles has a converter, at least without a default. -/
theorem exists_ofConfig (hField : field.UsesFormat type pattern)
    (hPattern : NumberFormat.ofPattern pattern = .ok format)
    (hDefault : field.properties.setting? Property.defaultValue = none) :
    ∃ converter, ofConfig field = .ok converter := by
  have hNarrowing : Narrowing.ofConfig field = .ok none := by
    simp [Narrowing.ofConfig, hField.uncut]
  rw [ofConfig_number hField.type, number, mapM_ofPattern hField.format hPattern, hNarrowing]
  simp only [defaultValue, hDefault]
  exact ⟨_, rfl⟩

end FieldConverter

namespace NumberFormat

/-- How fields read a text that stands for a whole number of 64 bits in their format: fields of 64 bits as
that number, fields of 32 bits as that number if it fits and as too large if not. Those with a default take it
instead of an error. -/
structure ReadsAs (pattern text : String) (n : Int) : Prop where
  long : ∀ field converter, FieldConfig.UsesFormat field .long pattern →
    FieldConverter.ofConfig field = .ok converter →
      converter.read (some text) = .ok (.long (Int64.ofInt n))
  integer : ∀ field converter, FieldConfig.UsesFormat field .integer pattern →
    FieldConverter.ofConfig field = .ok converter → -2147483648 ≤ n → n ≤ 2147483647 →
      converter.read (some text) = .ok (.integer (Int32.ofInt n))
  integer_tooLarge : ∀ field converter, FieldConfig.UsesFormat field .integer pattern →
    FieldConverter.ofConfig field = .ok converter → ¬(-2147483648 ≤ n ∧ n ≤ 2147483647) →
      converter.read (some text) =
        converter.default.elim (.error (.numberOutOfRange text "integer")) .ok

theorem readsAs_of_read {pattern text : String} {format : NumberFormat} {n : Int}
    (hPattern : ofPattern pattern = .ok format)
    (hRead : format.read text = .ok (.whole (Int64.ofInt n))) (hTrimmed : trimmed text = text)
    (hLeast : -9223372036854775808 ≤ n) (hGreatest : n ≤ 9223372036854775807) :
    ReadsAs pattern text n := by
  have hValue : (Int64.ofInt n).toInt = n :=
    Int64.toInt_ofInt_of_le (by omega) (by omega)
  have hConverted : ∀ type field converter, FieldConfig.UsesFormat field type pattern →
      FieldConverter.ofConfig field = .ok converter → ∀ outcome, type.ofInt text n = outcome →
        type ≠ .double → converter.read (some text) = converter.orDefault outcome := by
    rintro type field converter hField h outcome rfl hWhole
    have hAmount : type.ofAmount text (.whole (Int64.ofInt n)) = type.ofInt text n := by
      cases type with
      | double => exact absurd rfl hWhole
      | integer | long => simp [NumberType.ofAmount, hValue]
    obtain ⟨narrowing, default, hNarrowing, rfl⟩ :=
      FieldConverter.eq_of_ofConfig hField.type (FieldConverter.mapM_ofPattern hField.format hPattern) h
    simp only [Narrowing.ofConfig, hField.uncut, Except.ok.injEq] at hNarrowing
    subst hNarrowing
    rw [FieldConverter.read_number rfl, FieldConverter.readStrictly_format rfl]
    simp only [FieldConverter.given, FieldConverter.narrow, hTrimmed, hRead]
    simp only [bind, Except.bind, hAmount]
  constructor
  · intro field converter hField h
    exact hConverted .long field converter hField h _
      (NumberType.ofInt_long ⟨hLeast, hGreatest⟩) nofun
  · intro field converter hField h hLeast hGreatest
    exact hConverted .integer field converter hField h _
      (NumberType.ofInt_integer ⟨hLeast, hGreatest⟩) nofun
  · intro field converter hField h hLarge
    exact hConverted .integer field converter hField h _
      (NumberType.ofInt_integer_tooLarge hLarge) nofun

/-- The pattern of a number between two quoted texts. -/
def patternBetween (before body behind : List Char) : String :=
  String.ofList (quotedLiteral before ++ body ++ quotedLiteral behind)

section

variable {before behind body : List Char}

theorem ofPattern_between (hBody : IsBody body) :
    ofPattern (patternBetween before body behind) =
      .ok (between before behind (body.contains ',')) := by
  rw [ofPattern, patternBetween, String.toList_ofList, List.append_assoc,
    compile_between before behind hBody]
  rfl

/-- Digits behind the text of a sign are the whole number with that sign. -/
theorem read_between {digits written after text : List Char} {negative : Bool}
    (hWrites : Writes (body.contains ',') digits written)
    (hFits : digitsValue digits ≤ 9223372036854775807)
    (hStop : ¬Extends (body.contains ',') (behind ++ after))
    (hSign : (between before behind (body.contains ',')).takeSign text =
      some (negative, written ++ (behind ++ after))) :
    (between before behind (body.contains ',')).read (String.ofList text) =
      .ok (.whole (Int64.ofInt (if negative then -digitsValue digits else digitsValue digits))) := by
  have hBehind : ((between before behind (body.contains ',')).affixes negative).behind = behind := by
    cases negative <;> rfl
  have hAmount : (between before behind (body.contains ',')).read? text =
      some (Numeral.toAmount ⟨digits, none, none⟩ negative 1) :=
    read?_written hWrites (hBehind.symm ▸ hSign) (hBehind.symm ▸ hStop)
  rw [read, String.toList_ofList, hAmount, Numeral.toAmount_digits negative hFits]

end

/-- A pattern with two quoted texts around its number compiles, and the fields with it read what it
describes: digits behind the first text, with or without a minus sign before it, and with the second text and
anything else behind them that is no part of the number. -/
theorem reads_between (before behind : List Char) {body : List Char} (hBody : IsBody body) :
    (∃ format, ofPattern (patternBetween before body behind) = .ok format) ∧
    (∀ field type, FieldConfig.UsesFormat field type (patternBetween before body behind) →
      field.properties.setting? Property.defaultValue = none →
        ∃ converter, FieldConverter.ofConfig field = .ok converter) ∧
    ∀ digits written after, Writes (body.contains ',') digits written →
      digitsValue digits ≤ 9223372036854775807 →
      ¬Extends (body.contains ',') (behind ++ after) →
        (∀ text, text = String.ofList (before ++ written ++ behind ++ after) →
          trimmed text = text →
            ReadsAs (patternBetween before body behind) text (digitsValue digits)) ∧
        (∀ text, text = String.ofList ('-' :: (before ++ written ++ behind ++ after)) →
          trimmed text = text →
            ReadsAs (patternBetween before body behind) text (-digitsValue digits)) := by
  have hPattern : ofPattern (patternBetween before body behind) =
      .ok (between before behind (body.contains ',')) := ofPattern_between hBody
  refine ⟨⟨_, hPattern⟩, ?_, ?_⟩
  · intro field type hField hDefault
    exact FieldConverter.exists_ofConfig hField hPattern hDefault
  · intro digits written after hWrites hFits hStop
    constructor
    · rintro _ rfl hTrimmed
      obtain ⟨first, rest, hFirst, hWritten⟩ := hWrites.digit_first
      have hSign : (between before behind (body.contains ',')).takeSign
          (before ++ written ++ behind ++ after) = some (false, written ++ (behind ++ after)) := by
        simpa [hWritten] using takeSign_between hFirst (rest ++ (behind ++ after))
      have hRead := read_between hWrites hFits hStop hSign
      exact readsAs_of_read hPattern hRead hTrimmed (by omega) (by omega)
    · rintro _ rfl hTrimmed
      have hSign : (between before behind (body.contains ',')).takeSign
          ('-' :: (before ++ written ++ behind ++ after)) =
            some (true, written ++ (behind ++ after)) := by
        simpa using takeSign_between_minus (written ++ (behind ++ after))
      have hRead := read_between hWrites hFits hStop hSign
      exact readsAs_of_read hPattern hRead hTrimmed (by omega) (by omega)

/-- A field of the given type with a format and nothing else. -/
def formattedField (type : NumberType) (pattern : String) : FieldConfig :=
  FieldConfig.withProperty { name := "weight", dataType := type.dataType } Property.numberFormat
    pattern

theorem reads_between_quoted :
    ∃ long integer,
      FieldConverter.ofConfig (formattedField .long "'it''s;-%'#,##0'E''-'") = .ok long ∧
      FieldConverter.ofConfig (formattedField .integer "'it''s;-%'#,##0'E''-'") = .ok integer ∧
      long.read (some "it's;-%1,234,567,E'- kg") = .ok (.long 1234567) ∧
      long.read (some "-it's;-%1,234,567,E'- kg") = .ok (.long (-1234567)) ∧
      integer.read (some "-it's;-%1,234,567,E'- kg") = .ok (.integer (-1234567)) := by
  have hBody : IsBody "#,##0".toList :=
    ⟨List.all_eq_true.mp (by decide), ⟨'0', by decide, by decide⟩, by decide⟩
  have hPattern : patternBetween "it's;-%".toList "#,##0".toList "E'-".toList =
      "'it''s;-%'#,##0'E''-'" := by decide +kernel
  have hWrites : Writes true "1234567".toList "1,234,567,".toList :=
    ⟨List.all_eq_true.mp (by decide), ⟨'1', ",234,567,".toList, by decide, by decide⟩, by decide,
      nofun⟩
  have hStop : ¬Extends true ("E'-".toList ++ " kg".toList) := by
    have hText : "E'-".toList ++ " kg".toList = ['E', '\'', '-', ' ', 'k', 'g'] := by decide
    rw [hText]
    intro h
    cases h with
    | digit h => cases h
    | exponent h => cases h
    | signedExponent hSign h => cases h
  have hField : ∀ type, FieldConfig.UsesFormat (formattedField type "'it''s;-%'#,##0'E''-'") type
      "'it''s;-%'#,##0'E''-'" := fun type =>
    ⟨rfl, by cases type <;> decide +kernel, by cases type <;> decide +kernel⟩
  obtain ⟨-, hConfigured, hReads⟩ := reads_between "it's;-%".toList "E'-".toList hBody
  rw [hPattern] at hConfigured hReads
  obtain ⟨long, hLong⟩ := hConfigured _ _ (hField .long) (by decide +kernel)
  obtain ⟨integer, hInteger⟩ := hConfigured _ _ (hField .integer) (by decide +kernel)
  obtain ⟨hPositive, hNegative⟩ :=
    hReads "1234567".toList "1,234,567,".toList " kg".toList hWrites (by decide) hStop
  have hPositive := hPositive "it's;-%1,234,567,E'- kg" (by decide +kernel) (by decide +kernel)
  have hNegative := hNegative "-it's;-%1,234,567,E'- kg" (by decide +kernel) (by decide +kernel)
  exact ⟨long, integer, hLong, hInteger, hPositive.long _ _ (hField .long) hLong,
    hNegative.long _ _ (hField .long) hLong,
    hNegative.integer _ _ (hField .integer) hInteger (by decide) (by decide)⟩

end NumberFormat
end LogIngest

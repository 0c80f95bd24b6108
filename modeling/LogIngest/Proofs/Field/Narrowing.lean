import LogIngest.Proofs.Field.Settings

/-!
Fields whose texts are cut down before they are converted. Main statement: such a field makes of a text what
the same field without the pattern makes of the part that the group captures, or of the whole text where the
group captures nothing.
-/

namespace LogIngest

/-- The first match of a pattern in a text captures a part of it with a group. -/
def Pattern.CutsOut (pattern : Pattern) (group : Nat) (text part : String) : Prop :=
  ∃ captures, pattern.find? text = some captures ∧ captures.group? group = some part

theorem Pattern.cutsOut_iff {pattern : Pattern} {group : Nat} {text part : String} :
    pattern.CutsOut group text part ↔ (pattern.find? text).bind (·.group? group) = some part :=
  Option.bind_eq_some_iff.symm

namespace Narrowing

variable {narrowing : Narrowing} {text part : String}

theorem apply_of_cutsOut (h : narrowing.pattern.CutsOut narrowing.group text part) :
    narrowing.apply text = part := by
  rw [apply, Pattern.cutsOut_iff.mp h, Option.getD_some]

theorem apply_of_not_cutsOut (h : ∀ part, ¬narrowing.pattern.CutsOut narrowing.group text part) :
    narrowing.apply text = text := by
  have hNone : (narrowing.pattern.find? text).bind (·.group? narrowing.group) = none :=
    Option.eq_none_iff_forall_ne_some.mpr fun part => mt Pattern.cutsOut_iff.mpr (h part)
  rw [apply, hNone, Option.getD_none]

end Narrowing

namespace FieldConverter

variable {field : FieldConfig} {converter plain : FieldConverter}

/-- A converter makes of a text what a plain one makes of the part that is captured in it, or else of the
whole text, and both make the same of none. So what stands around the captured part does not matter. -/
structure Substitutes (converter plain : FieldConverter) (captures : (text part : String) → Prop) :
    Prop where
  captured : ∀ text part, captures text part → converter.read (some text) = plain.read (some part)
  uncaptured : ∀ text, (∀ part, ¬captures text part) →
    converter.read (some text) = plain.read (some text)
  absent : converter.read none = plain.read none
  alike : ∀ text other part, captures text part → captures other part →
    converter.read (some text) = converter.read (some other)

/-- The converter that takes texts as they are. -/
def unnarrowed (converter : FieldConverter) : FieldConverter :=
  { converter with narrowing := none }

/-- The text is cut down first, and everything else happens to what is left of it. -/
theorem read_some (converter : FieldConverter) (text : String) :
    converter.read (some text) = converter.unnarrowed.read (some (converter.narrow text)) :=
  rfl

theorem read_none (converter : FieldConverter) : converter.read none = converter.unnarrowed.read none :=
  rfl

theorem MadeFrom.unnarrowed (h : converter.MadeFrom field) :
    converter.unnarrowed.MadeFrom (field.without Property.preparsePattern) where
  name := h.name
  conversion := by
    rw [FieldConfig.conversion_without (by decide)]
    exact h.conversion
  narrowing := FieldConfig.narrowing_without_pattern field
  standIn := by
    rw [FieldConfig.standIn_without (by decide)]
    exact h.standIn

theorem substitutes_unnarrowed {narrowing : Narrowing} (h : converter.narrowing = some narrowing) :
    converter.Substitutes converter.unnarrowed (narrowing.pattern.CutsOut narrowing.group) := by
  have hNarrow (text : String) : converter.narrow text = narrowing.apply text := by
    rw [narrow, h]
  have hCaptured : ∀ text part, narrowing.pattern.CutsOut narrowing.group text part →
      converter.read (some text) = converter.unnarrowed.read (some part) := by
    intro text part hPart
    rw [read_some, hNarrow, Narrowing.apply_of_cutsOut hPart]
  constructor
  case captured => exact hCaptured
  case uncaptured =>
    intro text hNone
    rw [read_some, hNarrow, Narrowing.apply_of_not_cutsOut hNone]
  case absent => exact converter.read_none
  case alike =>
    intro text other part hText hOther
    rw [hCaptured text part hText, hCaptured other part hOther]

/-- A field with a pattern that cuts its texts down has a converter without the pattern too, and differs from
it by substitution only, whatever its type, its format and its default. -/
theorem substitutes_of_ofConfig {source : String} (h : ofConfig field = .ok converter)
    (hPattern : field.properties.setting? Property.preparsePattern = some source) :
    ∃ plain pattern group,
      ofConfig (field.without Property.preparsePattern) = .ok plain ∧
        Pattern.anywhere source = .ok pattern ∧
        pattern.group field.name (field.properties.setting? Property.preparseGroup) = .ok group ∧
        converter.Substitutes plain (pattern.CutsOut group) := by
  have hMade := ofConfig_eq_ok_iff.mp h
  have hNarrowing := hMade.narrowing
  simp only [Narrowing.ofConfig, hPattern] at hNarrowing
  obtain ⟨pattern, hCompiled, hNarrowing⟩ := bind_eq_ok hNarrowing
  obtain ⟨group, hGroup, hNarrowing⟩ := bind_eq_ok hNarrowing
  have hSome : converter.narrowing = some { pattern, group } := (Except.ok.inj hNarrowing).symm
  exact ⟨converter.unnarrowed, pattern, group, ofConfig_eq_ok_iff.mpr hMade.unnarrowed, hCompiled, hGroup,
    substitutes_unnarrowed hSome⟩

/-- A field of whole numbers behind an equals sign. Its group is named, and takes part in a match only where
there are digits. -/
def countField : FieldConfig where
  name := "count"
  dataType := .long
  properties := .ofList [(Property.preparsePattern, "(?P<unit>[a-z]+)=(?P<amount>[0-9]+)?"),
    (Property.preparseGroup, " amount "), (Property.defaultValue, "-1")]

theorem substitutes_of_ofConfig_count :
    ∃ converter plain, ofConfig countField = .ok converter ∧
      ofConfig (countField.without Property.preparsePattern) = .ok plain ∧
      converter.read (some "(bytes=512, rows=7)") = plain.read (some "512") ∧
      converter.read (some "bytes=") = plain.read (some "bytes=") ∧
      converter.read none = plain.read none ∧
      (plain.read (some "512")).toOption.map FieldValue.text = some "512" ∧
      (plain.read (some "bytes=")).toOption.map FieldValue.text = some "-1" := by
  have hMade : (ofConfig countField).toOption.isSome = true := by decide +kernel
  have hReads : (ofConfig (countField.without Property.preparsePattern)).toOption.map (fun plain =>
      ((plain.read (some "512")).toOption.map FieldValue.text,
        (plain.read (some "bytes=")).toOption.map FieldValue.text)) = some (some "512", some "-1") := by
    decide +kernel
  have hFound : ((Pattern.anywhere "(?P<unit>[a-z]+)=(?P<amount>[0-9]+)?").toOption.bind fun pattern =>
      (pattern.group "count" (some " amount ")).toOption.map fun group =>
        ((pattern.find? "(bytes=512, rows=7)").bind (·.group? group),
          (pattern.find? "bytes=").bind (·.group? group))) = some (some "512", none) := by
    decide +kernel
  have hSource : countField.properties.setting? Property.preparsePattern =
      some "(?P<unit>[a-z]+)=(?P<amount>[0-9]+)?" := by decide +kernel
  have hAsked : countField.properties.setting? Property.preparseGroup = some " amount " := by
    decide +kernel
  obtain ⟨converter, hMade⟩ := Option.isSome_iff_exists.mp hMade
  have hConverter := eq_ok_of_toOption hMade
  obtain ⟨plain, pattern, group, hPlain, hPattern, hGroup, hSubstitutes⟩ :=
    substitutes_of_ofConfig hConverter hSource
  rw [hAsked] at hGroup
  rw [hPlain] at hReads
  obtain ⟨hAmount, hDefault⟩ := Prod.mk.inj (Option.some.inj hReads)
  rw [hPattern] at hFound
  change (pattern.group countField.name (some " amount ")).toOption.map _ = _ at hFound
  rw [hGroup] at hFound
  obtain ⟨hPart, hNone⟩ := Prod.mk.inj (Option.some.inj hFound)
  refine ⟨converter, plain, hConverter, hPlain, ?_, ?_, hSubstitutes.absent, hAmount, hDefault⟩
  · exact hSubstitutes.captured _ _ (Pattern.cutsOut_iff.mpr hPart)
  · apply hSubstitutes.uncaptured
    intro part hSome
    rw [Pattern.cutsOut_iff, hNone] at hSome
    cases hSome

end FieldConverter
end LogIngest

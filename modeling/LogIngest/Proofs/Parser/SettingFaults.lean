import LogIngest.Parser.Strategy
import LogIngest.Proofs.Fallible

/-!
What can be wrong with the settings of a parser. Main statement: the strategies that need no registration fail
to build a parser only because of its settings and those of its fields.
-/

namespace LogIngest

namespace SetupError

/-- A fault lies in the settings of a parser or of one of its fields, and not in the strategy that is asked
for. -/
def InSettings : SetupError → Prop
  | missingProperty _ _ | invalidProperty _ _ _ _ | invalidPosition _ _ | invalidGroup _ _ _ => True
  | invalidPattern _ _ | invalidDefault _ _ _ | missingFilter _ => True
  | invalidDateFormat _ _ | invalidNumberFormat _ _ | invalidTimezone _ _ => True
  | unsupportedDataType _ | unsupportedOperation _ | unreadable _ _ | malformed _ => False
  | parserNotFound _ | instantiationFailed _ _ => False

end SetupError

open SetupError (InSettings)

namespace Pattern

/-- A pattern that cannot be compiled is reported as that pattern, in every edition. -/
theorem failsOnly_ofText (edition : Edition) (source : String) (text : List Char) :
    FailsOnly InSettings (ofText edition source text) :=
  .mapError (fun _ => trivial) _

theorem failsOnly_anywhere (source : String) : FailsOnly InSettings (anywhere source) :=
  failsOnly_ofText .standard source _

theorem failsOnly_whole (source : String) : FailsOnly InSettings (whole source) :=
  failsOnly_ofText .standard source _

/-- A group that does not exist is reported on behalf of its field, however it is asked for. -/
theorem failsOnly_group (pattern : Pattern) (field : String) (name : Option String) :
    FailsOnly InSettings (pattern.group field name) := by
  have hNumbered (index : Nat) (missing : String) : FailsOnly InSettings
      (if index < pattern.groups then .ok index
        else .error (.invalidGroup field missing (pattern.groups - 1))) := by
    split
    · exact .ok index
    · exact .error trivial
  unfold group
  split
  · exact hNumbered 1 _
  · split
    · exact hNumbered _ _
    · split
      · exact .ok _
      · exact .error trivial

end Pattern

/-- A number format is refused as that format. -/
theorem NumberFormat.failsOnly_ofPattern (pattern : String) : FailsOnly InSettings (ofPattern pattern) :=
  .mapError (fun _ => trivial) _

/-- A time zone is refused as that zone, also where it cannot be taken apart. -/
theorem Calendar.Timezone.failsOnly_ofSpecifier (specifier : String) :
    FailsOnly InSettings (ofSpecifier specifier) := by
  unfold ofSpecifier
  split
  · exact .ok _
  · exact .error trivial
  · exact .error trivial

/-- A date format is refused for its layout, for what it does not tell, or for its zone. -/
theorem DateFormat.failsOnly_ofPattern (pattern : String) (zone : Option String) :
    FailsOnly InSettings (ofPattern pattern zone) := by
  unfold ofPattern
  refine .bind (.mapError (fun _ => trivial) _) fun (layout, millis) => ?_
  refine .bind (.mapError (fun _ => trivial) _) fun (items, supply) => ?_
  cases zone with
  | none => exact .ok _
  | some specifier => exact .bind (Calendar.Timezone.failsOnly_ofSpecifier specifier) fun _ => .ok _

/-- A pattern that narrows a value down is refused for its text or its group. -/
theorem Narrowing.failsOnly_ofConfig (field : FieldConfig) : FailsOnly InSettings (ofConfig field) := by
  unfold ofConfig
  split
  · exact .ok none
  · next source _ =>
    exact .bind (Pattern.failsOnly_anywhere source) fun pattern =>
      .bind (pattern.failsOnly_group field.name _) fun _ => .ok _

namespace FieldConverter

/-- A default value is refused as one that the field cannot read. -/
theorem failsOnly_defaultValue (field : FieldConfig) (conversion : Conversion) :
    FailsOnly InSettings (defaultValue field conversion) := by
  unfold defaultValue
  split
  · exact .ok none
  · split
    · exact .ok _
    · exact .error trivial

/-- A number of any type is refused for its format or its default value. -/
theorem failsOnly_number (field : FieldConfig) (type : NumberType) :
    FailsOnly InSettings (number field type) := by
  refine .bind (.optionMapM NumberFormat.failsOnly_ofPattern _) fun format => ?_
  refine .bind (Narrowing.failsOnly_ofConfig field) fun narrowing => ?_
  exact .bind (failsOnly_defaultValue field _) fun _ => .ok _

/-- Whatever the type of its data, a field is refused for its settings. -/
theorem failsOnly_ofConfig (field : FieldConfig) : FailsOnly InSettings (ofConfig field) := by
  have hNarrowing := Narrowing.failsOnly_ofConfig field
  unfold ofConfig
  cases field.dataType with
  | string => exact hNarrowing.bind fun narrowing => .bind (failsOnly_defaultValue field _) fun _ => .ok _
  | integer => exact failsOnly_number field .integer
  | long => exact failsOnly_number field .long
  | double => exact failsOnly_number field .double
  | boolean => exact hNarrowing.bind fun narrowing => .bind (Pattern.failsOnly_whole _) fun _ => .ok _
  | date =>
      refine .bind (DateFormat.failsOnly_ofPattern _ _) fun format => ?_
      exact .bind (failsOnly_defaultValue field _) fun default => hNarrowing.bind fun _ => .ok _

end FieldConverter

/-- Of the filters only patterns can be refused. -/
theorem Filter.failsOnly_ofConfig (mode : FilterMode) (text : Option String) :
    FailsOnly InSettings (ofConfig mode text) := by
  unfold ofConfig
  split
  · exact .ok none
  · exact .ok none
  · cases mode with
    | all => exact .ok none
    | names => exact .ok _
    | pattern => exact (Pattern.failsOnly_whole _).map _

/-- A parser is refused for one of its filters, or for having none. -/
theorem Applicability.failsOnly_ofConfig (parser : ParserConfig) : FailsOnly InSettings (ofConfig parser) := by
  unfold ofConfig
  split
  · exact .ok all
  · refine .bind (Filter.failsOnly_ofConfig _ _) fun source => ?_
    refine .bind (Filter.failsOnly_ofConfig _ _) fun host => ?_
    split
    · exact .error trivial
    · exact .ok _

/-- What all parsers share is refused for its filters only. -/
theorem ParserCore.failsOnly_ofConfig (repository : RepositoryConfig) (parser : ParserConfig) (kind : String)
    (tokenizer : Tokenizer) : FailsOnly InSettings (ofConfig repository parser kind tokenizer) :=
  .bind (Applicability.failsOnly_ofConfig parser) fun _ => .ok _

namespace PositionedField

/-- A position is refused if it is missing, no number, or zero. -/
theorem failsOnly_indexOf (field : FieldConfig) : FailsOnly InSettings (indexOf field) := by
  unfold indexOf
  dsimp only
  split
  · exact .ok _
  · exact .error trivial
  · exact .error trivial

theorem failsOnly_ofConfig (field : FieldConfig) : FailsOnly InSettings (ofConfig field) :=
  .bind (failsOnly_indexOf field) fun _ => .bind (FieldConverter.failsOnly_ofConfig field) fun _ => .ok _

end PositionedField

/-- A parser by delimiters is refused for its delimiter or for one of its fields. -/
theorem Delimited.failsOnly_ofConfig (parser : ParserConfig) : FailsOnly InSettings (ofConfig parser) := by
  refine .bind ?_ fun setting => .bind (.mapM PositionedField.failsOnly_ofConfig _) fun _ => .ok _
  unfold Properties.require
  split
  · exact .ok _
  · exact .error trivial

namespace CapturedField

/-- A field without a pattern of its own needs that of the parser. -/
theorem failsOnly_sourceOf (shared : Option Pattern) (field : FieldConfig) :
    FailsOnly InSettings (sourceOf shared field) := by
  unfold sourceOf
  split
  · exact (Pattern.failsOnly_anywhere _).map _
  · exact .ok _
  · exact .error trivial

theorem failsOnly_ofConfig (shared : Option Pattern) (field : FieldConfig) :
    FailsOnly InSettings (ofConfig shared field) := by
  refine .bind (failsOnly_sourceOf shared field) fun (source, pattern) => ?_
  refine .bind (pattern.failsOnly_group field.name _) fun group => ?_
  exact .bind (FieldConverter.failsOnly_ofConfig field) fun _ => .ok _

end CapturedField

/-- A parser by patterns is refused for its pattern or for one of its fields. -/
theorem Matching.failsOnly_ofConfig (parser : ParserConfig) : FailsOnly InSettings (ofConfig parser) :=
  .bind (.optionMapM Pattern.failsOnly_whole _) fun pattern =>
    .bind (.mapM (CapturedField.failsOnly_ofConfig pattern) _) fun _ => .ok _

/-- Hints for strings are refused for their patterns or their format. -/
theorem StringHints.failsOnly_ofConfig (parser : ParserConfig) : FailsOnly InSettings (ofConfig parser) :=
  .bind (.optionMapM Pattern.failsOnly_whole _) fun _ =>
    .bind (.optionMapM Pattern.failsOnly_whole _) fun _ =>
      .bind (DateFormat.failsOnly_ofPattern _ _) fun _ => .ok _

/-- The strategies that need no registration never fail because of what strategy is asked for. -/
theorem Strategy.failsOnly_build (strategy : Strategy) (repository : RepositoryConfig) (parser : ParserConfig)
    (tokenizer : Tokenizer) : FailsOnly InSettings (strategy.build repository parser tokenizer) := by
  have hCore (kind : String) := ParserCore.failsOnly_ofConfig repository parser kind tokenizer
  cases strategy with
  | default => exact (hCore _).map _
  | delimited =>
      have hFormat := Delimited.failsOnly_ofConfig parser
      exact .map (hFormat.bind fun format => (hCore _).bind fun _ => .ok _) _
  | regex =>
      have hFormat := Matching.failsOnly_ofConfig parser
      exact .map (hFormat.bind fun format => (hCore _).bind fun _ => .ok _) _
  | json =>
      have hHints := StringHints.failsOnly_ofConfig parser
      exact .map (hHints.bind fun hints => (hCore _).bind fun _ => .ok _) _

end LogIngest

import LogIngest.Proofs.Field.Settings
import LogIngest.Proofs.Parser.Extraction
import LogIngest.Proofs.Text.Pieces

/-!
Fields at positions of delimited messages. Main statement: a message is put together from tokens in one way, and
a field of texts finds the one at its position among them, or fails where its position is behind the last.
-/

namespace LogIngest

/-- Tokens between delimiters: each ends at the first delimiter behind it, and there is none in the last. -/
def CutAt (delimiter : String) (tokens : List String) : Prop :=
  Text.Pieces delimiter.toList (tokens.map String.toList)

theorem map_ofList_eq_iff {pieces : List (List Char)} {tokens : List String} :
    pieces.map String.ofList = tokens ↔ pieces = tokens.map String.toList := by
  constructor
  · rintro rfl
    simp
  · rintro rfl
    simp

/-- A message has one list of tokens. -/
theorem cutAt_iff {delimiter : String} (hDelimiter : delimiter ≠ "") {tokens : List String}
    {message : String} :
    CutAt delimiter tokens ∧ delimiter.intercalate tokens = message ↔
      (Text.split delimiter.toList message.toList).map String.ofList = tokens := by
  have hSeparator : delimiter.toList ≠ [] := mt String.toList_eq_nil_iff.mp hDelimiter
  rw [map_ofList_eq_iff, ← Text.pieces_iff hSeparator, Text.join_eq_intercalate,
    ← String.toList_intercalate, String.toList_inj, CutAt]

/-- The delimiter of a parser, as it stands in messages. -/
def ParserConfig.DelimitedBy (parser : ParserConfig) (delimiter : String) : Prop :=
  ∃ setting, parser.properties.setting? Property.delimiter = some setting ∧
    Delimited.unescape setting = delimiter

theorem Properties.ne_empty_of_setting? {properties : Properties} {key setting : String}
    (h : properties.setting? key = some setting) : setting ≠ "" := by
  rintro rfl
  have hBlank := (Option.filter_eq_some_iff.mp h).2
  exact absurd hBlank (by decide)

/-- A delimiter is not empty, whatever its setting writes for a tab or a space. -/
theorem ParserConfig.DelimitedBy.ne_empty {parser : ParserConfig} {delimiter : String}
    (h : parser.DelimitedBy delimiter) : delimiter ≠ "" := by
  obtain ⟨setting, hSetting, rfl⟩ := h
  rw [Delimited.unescape, ne_eq, String.ofList_eq_empty_iff,
    Text.replace_eq_nil_iff (by decide) (by decide), Text.replace_eq_nil_iff (by decide) (by decide),
    String.toList_eq_nil_iff]
  exact Properties.ne_empty_of_setting? hSetting

namespace FieldConfig

/-- A field has texts as they are for its values. -/
structure TakesTexts (field : FieldConfig) : Prop where
  type : field.dataType = .string
  undefaulted : field.properties.setting? Property.defaultValue = none
  uncut : field.properties.setting? Property.preparsePattern = none

/-- What a field finds among tokens: nothing behind the last one, and the token at its position if it takes
texts. Every field has a position. -/
structure Picks (tokens : List String) (field : FieldConfig)
    (outcome : String × Except FieldError FieldValue) : Prop where
  name : outcome.1 = field.name
  placed : ∃ position, field.HasPosition position
  token : ∀ position token, field.HasPosition position → tokens[position - 1]? = some token →
    field.TakesTexts → outcome = (field.name, .ok (.string token))
  behind : ∀ position, field.HasPosition position → tokens.length < position →
    outcome = (field.name, .error (.positionOutOfRange position tokens.length))

end FieldConfig

theorem FieldConverter.MadeFrom.read_taken {field : FieldConfig} {converter : FieldConverter}
    (h : converter.MadeFrom field) (hTexts : field.TakesTexts) (text : String) :
    converter.read (some text) = .ok (.string text) := by
  have hNarrowing := h.narrowing
  rw [Narrowing.ofConfig, hTexts.uncut] at hNarrowing
  rw [h.read_text hTexts.type hTexts.undefaulted, narrow, ← Except.ok.inj hNarrowing]

namespace Strategy

variable {parser : ParserConfig} {field : FieldConfig}
  {outcome : String × Except FieldError FieldValue}

theorem Finds.picks {setting message : String}
    (hSetting : parser.properties.setting? Property.delimiter = some setting)
    (h : delimited.Finds parser message field outcome) : field.Picks (tokensOf setting message) outcome := by
  cases h with
  | converted hMade hLocated =>
      cases hLocated with
      | token hCut hPlaced hFound =>
          obtain rfl := Option.some.inj (hCut.symm.trans hSetting)
          constructor
          case name => rfl
          case placed => exact ⟨_, hPlaced⟩
          case token =>
            intro position token hPosition hToken hTexts
            obtain rfl := hPosition.unique hPlaced
            obtain rfl := Option.some.inj (hToken.symm.trans hFound)
            rw [(FieldConverter.ofConfig_eq_ok_iff.mp hMade).read_taken hTexts token]
          case behind =>
            intro position hPosition hBehind
            obtain rfl := hPosition.unique hPlaced
            have hWithin := (List.getElem?_eq_some_iff.mp hFound).1
            omega
  | failed hLocated =>
      cases hLocated with
      | noToken hCut hPlaced hBehind =>
          obtain rfl := Option.some.inj (hCut.symm.trans hSetting)
          constructor
          case name => rfl
          case placed => exact ⟨_, hPlaced⟩
          case token =>
            intro position token hPosition hToken hTexts
            obtain rfl := hPosition.unique hPlaced
            have hWithin := (List.getElem?_eq_some_iff.mp hToken).1
            omega
          case behind =>
            intro position hPosition _
            rw [hPosition.unique hPlaced]

theorem exists_delimiter {format : Delimited} (h : Delimited.ofConfig parser = .ok format) :
    ∃ setting, parser.properties.setting? Property.delimiter = some setting := by
  obtain ⟨setting, hSetting, -⟩ := bind_eq_ok h
  exact ⟨setting, Properties.setting?_of_require hSetting⟩

/-- Tokens that are put together with the delimiter of a parser are found again at their positions, whatever
is made of failures, and every message is put together so in one way. -/
theorem picks_of_build {repository : RepositoryConfig} {tokenizer : Tokenizer} {built : EntryParser}
    (hBuild : delimited.build repository parser tokenizer = .ok built) :
    ∃ delimiter, parser.DelimitedBy delimiter ∧ delimiter ≠ "" ∧
      (∀ tokens entry, CutAt delimiter tokens → entry.message = delimiter.intercalate tokens →
        ∃ outcomes, List.Forall₂ (FieldConfig.Picks tokens) parser.fields outcomes ∧
          built.parse entry = (do
            let draft ← built.core.prepare entry
            let draft ← parser.policy.applyFields draft outcomes
            return built.core.finish entry draft)) ∧
      ∀ message, ∃! tokens, CutAt delimiter tokens ∧ delimiter.intercalate tokens = message := by
  obtain ⟨format, core, hFormat, hCore, rfl⟩ := build_delimited_eq_ok_iff.mp hBuild
  obtain ⟨setting, hSetting⟩ := exists_delimiter hFormat
  have hDelimited : parser.DelimitedBy (Delimited.unescape setting) := ⟨setting, hSetting, rfl⟩
  have hTokens (tokens : List String) (message : String) :
      CutAt (Delimited.unescape setting) tokens ∧
        (Delimited.unescape setting).intercalate tokens = message ↔ tokensOf setting message = tokens :=
    cutAt_iff hDelimited.ne_empty
  refine ⟨_, hDelimited, hDelimited.ne_empty, ?_, ?_⟩
  · intro tokens entry hCut hMessage
    refine ⟨format.outcomes entry.message, ?_, ?_⟩
    · have hSame : tokensOf setting entry.message = tokens := (hTokens tokens _).mp ⟨hCut, hMessage.symm⟩
      rw [← hSame]
      exact (finds_delimited hFormat entry.message).imp fun _ _ hFinds => hFinds.picks hSetting
    · rw [← (ParserCore.configured_of_ofConfig hCore).policy]
      rfl
  · intro message
    refine ⟨tokensOf setting message, (hTokens _ message).mpr rfl, ?_⟩
    intro tokens hPieces
    exact ((hTokens tokens message).mp hPieces).symm

end Strategy

/-- A field of texts at a position. -/
def FieldConfig.textAt (name position : String) : FieldConfig where
  name := name
  dataType := .string
  properties := Dictionary.insert ∅ Property.position position

/-- A parser whose delimiter may overlap itself and the start of a token, with a field at the largest position
there is. -/
def ParserConfig.firstAndRest : ParserConfig where
  name := "pairs"
  strategy := "delimited"
  properties := Dictionary.insert ∅ Property.delimiter "::"
  fields := [.textAt "first" "1", .textAt "rest" " 2 ", .textAt "last" "18446744073709551615"]

/-- An entry with three colons in a row, and a delimiter at the end of its message. -/
def RawEntry.threeColons : RawEntry where
  timestamp := "2024-01-15T10:30:00.000Z"
  source := "proxy"
  host := "web-1"
  severity := "info"
  fields := none
  message := "a:::b::"

theorem Strategy.picks_of_build_threeColons :
    ∃ built, delimited.build (.named "web") .firstAndRest Keywords.words = .ok built ∧
      CutAt "::" ["a", ":b", ""] ∧ "::".intercalate ["a", ":b", ""] = RawEntry.threeColons.message ∧
      built.parse .threeColons = (do
        let draft ← built.core.prepare .threeColons
        let draft ← ErrorPolicy.skipField.applyFields draft
          [("first", .ok (.string "a")), ("rest", .ok (.string ":b")),
            ("last", .error (.positionOutOfRange 18446744073709551615 3))]
        return built.core.finish .threeColons draft) ∧
      ∃ result, built.parse .threeColons = .ok result ∧
        result.entry.fields.entries = [("first", .string "a"), ("rest", .string ":b")] ∧
        result.failures = [⟨"last", .positionOutOfRange 18446744073709551615 3⟩] := by
  obtain ⟨built, hBuild⟩ :
      ∃ built, delimited.build (.named "web") .firstAndRest Keywords.words = .ok built := ⟨_, rfl⟩
  obtain ⟨delimiter, ⟨setting, hSetting, hUnescaped⟩, -, hPicks, -⟩ := picks_of_build hBuild
  have hColons : ParserConfig.firstAndRest.properties.setting? Property.delimiter = some "::" := by
    decide +kernel
  obtain rfl := Option.some.inj (hColons.symm.trans hSetting)
  have hDelimiter : Delimited.unescape "::" = "::" := by decide +kernel
  obtain rfl := hDelimiter.symm.trans hUnescaped
  have hPieces : (Text.split "::".toList "a:::b::".toList).map String.ofList = ["a", ":b", ""] := by
    decide +kernel
  obtain ⟨hCut, hMessage⟩ := (cutAt_iff (by decide)).mpr hPieces
  obtain ⟨outcomes, hOutcomes, hParse⟩ := hPicks ["a", ":b", ""] .threeColons hCut hMessage.symm
  obtain _ | ⟨hFirst, _ | ⟨hRest, _ | ⟨hLast, ⟨⟩⟩⟩⟩ := hOutcomes
  have hFirstAt : (FieldConfig.textAt "first" "1").HasPosition 1 :=
    ⟨⟨"1", by decide +kernel, by decide +kernel⟩, by omega⟩
  have hRestAt : (FieldConfig.textAt "rest" " 2 ").HasPosition 2 :=
    ⟨⟨" 2 ", by decide +kernel, by decide +kernel⟩, by omega⟩
  have hLastAt : (FieldConfig.textAt "last" "18446744073709551615").HasPosition 18446744073709551615 :=
    ⟨⟨"18446744073709551615", by decide +kernel, by decide +kernel⟩, by omega⟩
  have hFirstFound := hFirst.token 1 "a" hFirstAt rfl ⟨rfl, by decide +kernel, by decide +kernel⟩
  have hRestFound := hRest.token 2 ":b" hRestAt rfl ⟨rfl, by decide +kernel, by decide +kernel⟩
  have hLastFailed := hLast.behind 18446744073709551615 hLastAt (by decide)
  rw [hFirstFound, hRestFound, hLastFailed] at hParse
  refine ⟨built, hBuild, hCut, hMessage, hParse, ?_⟩
  cases hBuild
  exact ⟨_, hParse, rfl, rfl⟩

end LogIngest

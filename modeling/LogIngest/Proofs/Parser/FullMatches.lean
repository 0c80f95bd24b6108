import LogIngest.Parser.Document
import LogIngest.Parser.Filter
import LogIngest.Parser.Matching
import LogIngest.Proofs.Field.Typing
import LogIngest.Proofs.Pattern.Enclosing

/-!
Full matches: the patterns of a configuration that have to match the whole of a text. Main statement: such a
pattern finds no match but of the whole text, if it is a pattern by itself. It holds in every edition of the
language, whatever the names of classes stand for there and however large patterns may be.
-/

namespace LogIngest.Pattern

/-- The pattern that some text becomes where a full match is asked for: in any edition by itself, or in the
standard one by a configuration. -/
inductive FullMatch : Edition → (source : String) → Pattern → Prop where
  | compiled {edition : Edition} {source : String} {pattern : Pattern}
    (h : wholeIn edition source = .ok pattern) : FullMatch edition source pattern
  /-- A filter for sources or hosts. -/
  | filter {mode : FilterMode} {text : String} {pattern : Pattern}
    (h : Filter.ofConfig mode (some text) = .ok (some (.pattern pattern))) :
    FullMatch .standard (trimmed text) pattern
  /-- The texts of a field that are true. -/
  | truth {field : FieldConfig} {converter : FieldConverter} {pattern : Pattern}
    (h : FieldConverter.ofConfig field = .ok converter) (hPattern : converter.conversion = .truth pattern) :
    FullMatch .standard
      ((field.properties.setting? Property.truePattern).getD FieldConverter.standardTruth) pattern
  /-- The strings of a document that stand for dates. -/
  | date {parser : ParserConfig} {hints : StringHints} {source : String} {pattern : Pattern}
    (h : StringHints.ofConfig parser = .ok hints) (hPattern : hints.date = some pattern)
    (hSource : parser.properties.setting? Property.datePattern = some source) :
    FullMatch .standard source pattern
  /-- The strings of a document that stand for whole numbers. -/
  | long {parser : ParserConfig} {hints : StringHints} {source : String} {pattern : Pattern}
    (h : StringHints.ofConfig parser = .ok hints) (hPattern : hints.long = some pattern)
    (hSource : parser.properties.setting? Property.longSuffix = some source) :
    FullMatch .standard source pattern
  /-- The messages of a parser by patterns. -/
  | message {parser : ParserConfig} {format : Matching} {source : String} {pattern : Pattern}
    (h : Matching.ofConfig parser = .ok format) (hPattern : format.pattern = some pattern)
    (hSource : parser.properties.setting? Property.pattern = some source) :
    FullMatch .standard source pattern

theorem whole_of_mapM {setting : Option String} {made : Option Pattern} {source : String}
    {pattern : Pattern} (h : setting.mapM whole = .ok made) (hSource : setting = some source)
    (hPattern : made = some pattern) : whole source = .ok pattern := by
  subst hSource hPattern
  obtain ⟨made, hWhole, hMade⟩ := map_eq_ok h
  rw [hWhole, Option.some.inj hMade]

theorem whole_of_filter {mode : FilterMode} {text : String} {pattern : Pattern}
    (h : Filter.ofConfig mode (some text) = .ok (some (.pattern pattern))) :
    whole (trimmed text) = .ok pattern := by
  unfold Filter.ofConfig at h
  split at h
  · cases h
  · cases h
  · next trimmedText _ hText =>
      split at h
      · cases h
      · cases h
      · obtain ⟨made, hWhole, hMade⟩ := map_eq_ok h
        cases hMade
        rw [← hWhole, Option.some.inj hText]

/-- Only the texts of a truth value are compared with a pattern. -/
theorem whole_of_truth {field : FieldConfig} {converter : FieldConverter} {pattern : Pattern}
    (h : FieldConverter.ofConfig field = .ok converter) (hPattern : converter.conversion = .truth pattern) :
    whole ((field.properties.setting? Property.truePattern).getD FieldConverter.standardTruth) =
      .ok pattern := by
  have hType := (FieldConverter.serves_of_ofConfig h).type
  simp only [FieldConverter.dataType, hPattern, Conversion.dataType] at hType
  unfold FieldConverter.ofConfig at h
  rw [← hType] at h
  obtain ⟨narrowing, -, h⟩ := bind_eq_ok h
  obtain ⟨made, hWhole, h⟩ := bind_eq_ok h
  cases h
  cases hPattern
  exact hWhole

/-- Wherever a full match is asked for, its text is compiled in the same way. -/
theorem FullMatch.wholeIn_eq_ok {edition : Edition} {source : String} {pattern : Pattern}
    (h : FullMatch edition source pattern) : wholeIn edition source = .ok pattern := by
  cases h with
  | compiled h => exact h
  | filter h => exact whole_of_filter h
  | truth h hPattern => exact whole_of_truth h hPattern
  | date h hPattern hSource =>
      obtain ⟨date, hDate, h⟩ := bind_eq_ok h
      obtain ⟨long, hLong, h⟩ := bind_eq_ok h
      obtain ⟨format, -, h⟩ := bind_eq_ok h
      cases h
      exact whole_of_mapM hDate hSource hPattern
  | long h hPattern hSource =>
      obtain ⟨date, hDate, h⟩ := bind_eq_ok h
      obtain ⟨long, hLong, h⟩ := bind_eq_ok h
      obtain ⟨format, -, h⟩ := bind_eq_ok h
      cases h
      exact whole_of_mapM hLong hSource hPattern
  | message h hPattern hSource =>
      obtain ⟨shared, hShared, h⟩ := bind_eq_ok h
      obtain ⟨fields, -, h⟩ := bind_eq_ok h
      cases h
      exact whole_of_mapM hShared hSource hPattern

/-- A full match covers the text, whenever the text of the pattern is a pattern by itself. Otherwise it may
close the group that it is put into, and go on behind it. -/
theorem covers_of_fullMatch {edition : Edition} {source : String} {alone pattern : Pattern}
    (hAlone : anywhereIn edition source = .ok alone) (h : FullMatch edition source pattern) :
    pattern.Covers ∧
      ∀ text, pattern.occursIn text = true →
        ∃ captures, pattern.find? text = some captures ∧ captures.group? 0 = some text := by
  have hCovers := covers_of_wholeIn hAlone h.wholeIn_eq_ok
  refine ⟨hCovers, ?_⟩
  intro text hOccurs
  rw [occursIn_eq] at hOccurs
  obtain ⟨captures, hCaptures⟩ := Option.isSome_iff_exists.mp hOccurs
  exact ⟨captures, hCaptures, hCovers text captures hCaptures⟩

/-- Alternatives: a letter in upper case, and two letters with a comment in which there is a parenthesis. -/
theorem covers_of_fullMatch_comment :
    ∃ pattern, whole "\\p{Lu}|(?x: a b # or )\n)" = .ok pattern ∧ pattern.occursIn "É" = true ∧
      pattern.occursIn "ab" = true ∧ pattern.Covers := by
  have hAlone : (anywhere "\\p{Lu}|(?x: a b # or )\n)").toOption.isSome = true := by decide +kernel
  have hFound : (whole "\\p{Lu}|(?x: a b # or )\n)").toOption.map
      (fun pattern => (pattern.occursIn "É", pattern.occursIn "ab")) = some (true, true) := by
    decide +kernel
  obtain ⟨alone, hAlone⟩ := Option.isSome_iff_exists.mp hAlone
  obtain ⟨pattern, hPattern, hOccurs⟩ := Option.map_eq_some_iff.mp hFound
  obtain ⟨hLetter, hComment⟩ := Prod.mk.inj hOccurs
  have hWhole := eq_ok_of_toOption hPattern
  exact ⟨pattern, hWhole, hLetter, hComment,
    (covers_of_fullMatch (eq_ok_of_toOption hAlone) (.compiled hWhole)).1⟩

/-- Two alternatives, of which the first closes the group and the second opens another: the first one does
not have to reach the end of the text. -/
theorem not_covers_unbalanced :
    ∃ pattern, whole "a)|(?:b" = .ok pattern ∧ pattern.occursIn "ax" = true ∧ ¬ pattern.Covers := by
  have hFound : (whole "a)|(?:b").toOption.bind
      (fun pattern => (pattern.find? "ax").bind (·.group? 0)) = some "a" := by
    decide +kernel
  obtain ⟨pattern, hPattern, hFound⟩ := Option.bind_eq_some_iff.mp hFound
  obtain ⟨captures, hCaptures, hGroup⟩ := Option.bind_eq_some_iff.mp hFound
  refine ⟨pattern, eq_ok_of_toOption hPattern, ?_, ?_⟩
  · rw [occursIn_eq, hCaptures]
    rfl
  · intro hCovers
    have hWhole := hCovers "ax" captures hCaptures
    rw [hGroup] at hWhole
    exact absurd hWhole (by decide)

end LogIngest.Pattern

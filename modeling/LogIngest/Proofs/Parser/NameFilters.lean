import LogIngest.Proofs.Repository.Routing
import LogIngest.Proofs.Text.Lowercase
import LogIngest.Proofs.Text.Pieces
import LogIngest.Proofs.Text.Trimming

/-!
Filters that are lists of names. Main statements: such a filter lets through what one of its items does, and
neither the order of the items nor their number, nor white space, blank items or the case of ASCII letters make
a difference; and a parser that is filtered in this way applies to an entry at all exactly when one of the items
is not blank.
-/

namespace LogIngest

namespace Filter

/-! ### Names -/

/-- Only blank names are nothing when they are compared. -/
theorem plainName_eq_empty_iff {name : List Char} : plainName name = "" ↔ Text.isBlank name = true := by
  rw [plainName, String.ofList_eq_empty_iff, Text.lower_eq_nil_iff, Text.trim_eq_nil_iff]

/-- White space around a name does not count. -/
theorem plainName_around {before after : List Char} (hBefore : Text.isBlank before = true)
    (hAfter : Text.isBlank after = true) (name : List Char) :
    plainName (before ++ name ++ after) = plainName name := by
  rw [plainName, Text.trim_around hBefore hAfter, plainName]

theorem plainName_prepend {before : List Char} (hBefore : Text.isBlank before = true) (name : List Char) :
    plainName (before ++ name) = plainName name := by
  have hNothing : Text.isBlank [] = true := rfl
  have hAround := plainName_around hBefore hNothing name
  rwa [List.append_nil] at hAround

theorem plainName_append {after : List Char} (hAfter : Text.isBlank after = true) (name : List Char) :
    plainName (name ++ after) = plainName name := by
  have hNothing : Text.isBlank [] = true := rfl
  exact plainName_around hNothing hAfter name

/-- White space around a value and the case of ASCII letters in it do not count. -/
theorem plainName_eq_of_same {value other : List Char}
    (h : Text.sameIgnoringAsciiCase (Text.trim value) (Text.trim other) = true) :
    plainName value = plainName other := by
  rw [plainName, plainName, Text.lower_eq_of_sameIgnoringAsciiCase h]

/-- A blank text has no comma, so it is a single item. -/
theorem comma_not_mem {text : List Char} (h : Text.isBlank text = true) : ',' ∉ text := by
  intro hMem
  have hBlank : Text.isBlankChar ',' = true := List.all_eq_true.mp h ',' hMem
  exact absurd hBlank (by decide)

/-! ### Lists of names -/

variable {list value : String}

/-- The names of a list are those of its items that are not blank. -/
theorem mem_namesOf_iff {name : String} :
    name ∈ namesOf list ↔
      ∃ item ∈ Text.split [','] list.toList, Text.isBlank item = false ∧ plainName item = name := by
  simp only [namesOf, List.mem_filter, List.mem_map, bne_iff_ne, ne_eq]
  constructor
  · rintro ⟨⟨item, hItem, rfl⟩, hSome⟩
    rw [plainName_eq_empty_iff, Bool.not_eq_true] at hSome
    exact ⟨item, hItem, hSome, rfl⟩
  · rintro ⟨item, hItem, hSome, rfl⟩
    refine ⟨⟨item, hItem, rfl⟩, ?_⟩
    rw [plainName_eq_empty_iff, hSome]
    exact Bool.false_ne_true

/-- Two lists with a comma between them have the names of both. -/
theorem namesOf_append (first second : String) :
    namesOf (first ++ "," ++ second) = namesOf first ++ namesOf second := by
  have hText : (first ++ "," ++ second).toList = first.toList ++ ',' :: second.toList := by
    simp [String.toList_append]
  rw [namesOf, hText, Text.split_append_cons, List.map_append, List.filter_append, namesOf, namesOf]

/-- White space around a list belongs to its first and its last item, and does not count there. -/
theorem namesOf_around {before after : String} (hBefore : blank before = true) (hAfter : blank after = true)
    (list : String) : namesOf (before ++ list ++ after) = namesOf list := by
  obtain ⟨first, rest, hList, hPrepended⟩ :=
    Text.exists_split_prepend (comma_not_mem hBefore) list.toList
  obtain ⟨items, last, hWhole, hAppended⟩ :=
    Text.exists_split_append (comma_not_mem hAfter) (before.toList ++ list.toList)
  have hItems : (items ++ [last]).map plainName = (first :: rest).map plainName := by
    rw [← hWhole, hPrepended, List.map_cons, List.map_cons, plainName_prepend hBefore]
  have hLast : (items ++ [last ++ after.toList]).map plainName = (items ++ [last]).map plainName := by
    rw [List.map_append, List.map_append, List.map_singleton, List.map_singleton, plainName_append hAfter]
  rw [namesOf, String.toList_append, String.toList_append, hAppended, hLast, hItems, ← hList, namesOf]

/-- White space around a list is white space around its first and its last item. -/
theorem namesOf_trimmed (list : String) : namesOf (trimmed list) = namesOf list := by
  obtain ⟨before, after, hBefore, hAfter, hList⟩ := Text.exists_trim list.toList
  have hWhole : list = String.ofList before ++ trimmed list ++ String.ofList after := by
    rw [trimmed, ← String.ofList_append, ← String.ofList_append, ← hList, String.ofList_toList]
  have hBlankBefore : blank (String.ofList before) = true := by rwa [blank, String.toList_ofList]
  have hBlankAfter : blank (String.ofList after) = true := by rwa [blank, String.toList_ofList]
  have hAround := namesOf_around hBlankBefore hBlankAfter (trimmed list)
  rw [← hWhole] at hAround
  exact hAround.symm

/-- A blank list has no names. -/
theorem namesOf_of_blank (h : blank list = true) : namesOf list = [] := by
  rw [← namesOf_trimmed, trimmed_eq_empty_iff.mpr h]
  rfl

/-- A list that is put together from others has the names of all of them. -/
theorem namesOf_intercalate (items : List String) : namesOf (",".intercalate items) = items.flatMap namesOf := by
  induction items with
  | nil => rfl
  | cons item items ih =>
      cases items with
      | nil => simp
      | cons next items => rw [String.intercalate_cons_cons, namesOf_append, ih, List.flatMap_cons (x := item)]

/-- Two ways to write one list down: in another order, with an item once more, with white space around an item,
or with an item that is nothing but white space. -/
inductive Rearranged : List String → List String → Prop where
  | reordered {items others : List String} (h : items.Perm others) : Rearranged items others
  | repeated {item : String} {items : List String} (h : item ∈ items) : Rearranged (item :: items) items
  | padded {before after : String} (hBefore : blank before = true) (hAfter : blank after = true)
    (item : String) (items : List String) : Rearranged ((before ++ item ++ after) :: items) (item :: items)
  | blank {item : String} (h : blank item = true) (items : List String) : Rearranged (item :: items) items
  | symm {items others : List String} (h : Rearranged items others) : Rearranged others items
  | trans {items between others : List String} (h : Rearranged items between)
    (hMore : Rearranged between others) : Rearranged items others

/-- Rearranged items have the same names. -/
theorem Rearranged.mem_flatMap_iff {items others : List String} (h : Rearranged items others) (name : String) :
    name ∈ items.flatMap namesOf ↔ name ∈ others.flatMap namesOf := by
  induction h with
  | reordered h => exact (h.flatMap_right namesOf).mem_iff
  | repeated h =>
      rw [List.flatMap_cons, List.mem_append, or_iff_right_iff_imp]
      exact fun hName => List.mem_flatMap.mpr ⟨_, h, hName⟩
  | padded hBefore hAfter item items =>
      rw [List.flatMap_cons, List.flatMap_cons, namesOf_around hBefore hAfter]
  | blank h items => rw [List.flatMap_cons, namesOf_of_blank h, List.nil_append]
  | symm _ ih => exact ih.symm
  | trans _ _ ih ihMore => exact ih.trans ihMore

/-! ### What a filter lets through -/

/-- A value passes the filter of a configuration. Where there is no filter, none does. -/
def Admits (mode : FilterMode) (text : Option String) (value : String) : Prop :=
  ∃ filter, ofConfig mode text = .ok (some filter) ∧ filter.accepts value = true

/-- A filter is missing or blank. -/
def Missing (text : Option String) : Prop :=
  ∀ list ∈ text, blank list = true

instance (text : Option String) : Decidable (Missing text) :=
  inferInstanceAs (Decidable (∀ list ∈ text, blank list = true))

/-- One of the items of a list is not blank. -/
def NamesSome (text : Option String) : Prop :=
  ∃ list ∈ text, ∃ item ∈ Text.split [','] list.toList, Text.isBlank item = false

theorem missing_none : Missing none := nofun

/-- A filter that is blank is missing. -/
theorem missing_some_iff : Missing (some list) ↔ blank list = true := by
  constructor
  · intro h
    exact h list rfl
  · rintro h _ ⟨⟩
    exact h

/-- What is missing makes no filter, in any mode. -/
theorem ofConfig_of_missing {text : Option String} (h : Missing text) (mode : FilterMode) :
    ofConfig mode text = .ok none := by
  cases text with
  | none => rfl
  | some list =>
      have hEmpty : trimmed list = "" := trimmed_eq_empty_iff.mpr (missing_some_iff.mp h)
      simp only [ofConfig, Option.map_some, hEmpty]

/-- Any other text makes a filter of its names. -/
theorem ofConfig_names (h : ¬Missing (some list)) :
    ofConfig .names (some list) = .ok (some (names (namesOf list))) := by
  have hSome : trimmed list ≠ "" := by
    rwa [ne_eq, trimmed_eq_empty_iff, ← missing_some_iff]
  rw [← namesOf_trimmed, ofConfig]
  simp

/-- A list of names never fails to be read, and is no filter exactly when it is missing. -/
theorem exists_ofConfig_names (text : Option String) :
    ∃ filter, ofConfig .names text = .ok filter ∧ (filter = none ↔ Missing text) := by
  by_cases hMissing : Missing text
  · exact ⟨none, ofConfig_of_missing hMissing .names, iff_of_true rfl hMissing⟩
  · cases text with
    | none => exact absurd missing_none hMissing
    | some list => exact ⟨_, ofConfig_names hMissing, iff_of_false nofun hMissing⟩

/-- A list lets through what has one of its names. -/
theorem admits_iff : Admits .names (some list) value ↔ plainName value.toList ∈ namesOf list := by
  by_cases hMissing : Missing (some list)
  · rw [Admits, ofConfig_of_missing hMissing, namesOf_of_blank (missing_some_iff.mp hMissing)]
    simp
  · rw [Admits, ofConfig_names hMissing]
    simp [accepts]

/-- What a built filter accepts is what its configuration admits. -/
theorem any_accepts_iff {mode : FilterMode} {text : Option String} {filter : Option Filter}
    (h : ofConfig mode text = .ok filter) (value : String) :
    filter.any (·.accepts value) = true ↔ Admits mode text value := by
  rw [Admits, h]
  cases filter <;> simp

/-- A filter that is missing lets nothing through by itself. -/
theorem not_admits_of_missing {text : Option String} (h : Missing text) (mode : FilterMode) (value : String) :
    ¬Admits mode text value := by
  rintro ⟨filter, hFilter, -⟩
  rw [ofConfig_of_missing h] at hFilter
  cases hFilter

/-- Two lists with a comma between them let through what either of them does. -/
theorem admits_append_iff (first second value : String) :
    Admits .names (some (first ++ "," ++ second)) value ↔
      Admits .names (some first) value ∨ Admits .names (some second) value := by
  rw [admits_iff, admits_iff, admits_iff, namesOf_append, List.mem_append]

/-- The order of items and their repetition make no difference. -/
theorem admits_rearranged_iff {items others : List String} (h : Rearranged items others) (value : String) :
    Admits .names (some (",".intercalate items)) value ↔
      Admits .names (some (",".intercalate others)) value := by
  rw [admits_iff, admits_iff, namesOf_intercalate, namesOf_intercalate, h.mem_flatMap_iff]

/-- White space around a value and its case make no difference. -/
theorem admits_same_iff {value other : String} (list : String)
    (h : Text.sameIgnoringAsciiCase (Text.trim value.toList) (Text.trim other.toList) = true) :
    Admits .names (some list) value ↔ Admits .names (some list) other := by
  rw [admits_iff, admits_iff, plainName_eq_of_same h]

/-- A value that passes is not blank, and is found among the items. -/
theorem namesSome_of_admits {text : Option String} (h : Admits .names text value) : NamesSome text := by
  cases text with
  | none => exact absurd h (not_admits_of_missing missing_none .names value)
  | some list =>
      obtain ⟨item, hItem, hSome, -⟩ := mem_namesOf_iff.mp (admits_iff.mp h)
      exact ⟨list, rfl, item, hItem, hSome⟩

theorem NamesSome.not_missing {text : Option String} (h : NamesSome text) : ¬Missing text := by
  obtain ⟨list, hList, item, hItem, hSome⟩ := h
  intro hMissing
  have hNone : namesOf list = [] := namesOf_of_blank (hMissing list hList)
  have hName : plainName item ∈ namesOf list := mem_namesOf_iff.mpr ⟨item, hItem, hSome, rfl⟩
  rw [hNone] at hName
  cases hName

/-- The item itself is let through. -/
theorem exists_admits_of_namesSome {text : Option String} (h : NamesSome text) :
    ∃ value, blank value = false ∧ Admits .names text value := by
  obtain ⟨list, hList, item, hItem, hSome⟩ := h
  obtain rfl : text = some list := hList
  refine ⟨String.ofList item, by rwa [blank, String.toList_ofList], ?_⟩
  rw [admits_iff, String.toList_ofList]
  exact mem_namesOf_iff.mpr ⟨item, hItem, hSome, rfl⟩

end Filter

open LogIngest.Filter (Admits Missing NamesSome Rearranged)

namespace ParserConfig

/-- Both filters of a parser are missing or blank. -/
def Unfiltered (parser : ParserConfig) : Prop :=
  Missing parser.sourceFilter ∧ Missing parser.hostFilter

instance (parser : ParserConfig) : Decidable parser.Unfiltered :=
  inferInstanceAs (Decidable (Missing parser.sourceFilter ∧ Missing parser.hostFilter))

/-- One of the filters of a parser names a source or a host. -/
def NamesOrigin (parser : ParserConfig) : Prop :=
  NamesSome parser.sourceFilter ∨ NamesSome parser.hostFilter

/-- A parser that names some origin has a filter. -/
theorem NamesOrigin.not_unfiltered {parser : ParserConfig} (h : parser.NamesOrigin) : ¬parser.Unfiltered := by
  rintro ⟨hSource, hHost⟩
  rcases h with hNames | hNames
  · exact hNames.not_missing hSource
  · exact hNames.not_missing hHost

end ParserConfig

namespace Applicability

variable {parser : ParserConfig} {applicability : Applicability}

/-- A parser that is filtered by names needs one of its filters. -/
theorem exists_ofConfig_names (hMode : parser.mode = .names) :
    ∃ source host, Filter.ofConfig .names parser.sourceFilter = .ok source ∧
      Filter.ofConfig .names parser.hostFilter = .ok host ∧
      ofConfig parser =
        if parser.Unfiltered then .error (.missingFilter parser.name) else .ok (filtered source host) := by
  obtain ⟨source, hSource, hNoSource⟩ := Filter.exists_ofConfig_names parser.sourceFilter
  obtain ⟨host, hHost, hNoHost⟩ := Filter.exists_ofConfig_names parser.hostFilter
  refine ⟨source, host, hSource, hHost, ?_⟩
  have hUnfiltered : parser.Unfiltered ↔ (source.isNone && host.isNone) = true := by
    rw [ParserConfig.Unfiltered, ← hNoSource, ← hNoHost, Bool.and_eq_true, Option.isNone_iff_eq_none,
      Option.isNone_iff_eq_none]
  simp only [ofConfig, hMode, hSource, hHost, hUnfiltered, bind, Except.bind]
  rfl

/-- A parser that is filtered by names applies to what one of its filters lets through. -/
theorem holds_iff_of_names (hMode : parser.mode = .names) (h : ofConfig parser = .ok applicability)
    (source host : String) :
    applicability.holds source host = true ↔
      Admits .names parser.sourceFilter source ∨ Admits .names parser.hostFilter host := by
  obtain ⟨sourceFilter, hostFilter, hSource, hHost, hOutcome⟩ := exists_ofConfig_names hMode
  rw [h] at hOutcome
  split at hOutcome
  · cases hOutcome
  · obtain rfl := Except.ok.inj hOutcome
    rw [holds, Bool.or_eq_true, Filter.any_accepts_iff hSource, Filter.any_accepts_iff hHost]

/-- A parser with a list for sources or for hosts applies where one of them lets its value through. -/
theorem exists_holds_of_filtered (parser : ParserConfig) (hMode : parser.mode = .names)
    (h : ¬parser.Unfiltered) :
    ∃ applicability, ofConfig parser = .ok applicability ∧
      ∀ source host, applicability.holds source host = true ↔
        Admits .names parser.sourceFilter source ∨ Admits .names parser.hostFilter host := by
  obtain ⟨source, host, -, -, hOutcome⟩ := exists_ofConfig_names hMode
  rw [if_neg h] at hOutcome
  exact ⟨_, hOutcome, holds_iff_of_names hMode hOutcome⟩

end Applicability

/-! ### Lists as unions of their items -/

namespace ParserConfig

/-- The filters of a parser are unions: each lets through what one of its items does, however they are written
down, and the parser applies to the entries that one of the two lets through. -/
structure FiltersByUnion (parser : ParserConfig) : Prop where
  missing : ∀ text, Missing text → ∀ value, ¬Admits parser.mode text value
  joined : ∀ first second value, Admits parser.mode (some (first ++ "," ++ second)) value ↔
    Admits parser.mode (some first) value ∨ Admits parser.mode (some second) value
  rearranged : ∀ items others, Rearranged items others → ∀ value,
    Admits parser.mode (some (",".intercalate items)) value ↔
      Admits parser.mode (some (",".intercalate others)) value
  same : ∀ list value other,
    Text.sameIgnoringAsciiCase (Text.trim value.toList) (Text.trim other.toList) = true →
      (Admits parser.mode (some list) value ↔ Admits parser.mode (some list) other)
  applies : ∀ strategy repository tokenizer built,
    Strategy.build strategy repository parser tokenizer = .ok built → ∀ source host,
      built.appliesTo source host = true ↔
        Admits parser.mode parser.sourceFilter source ∨ Admits parser.mode parser.hostFilter host
  joined_source : ∀ first second, ∃ applicability,
    Applicability.ofConfig { parser with sourceFilter := some (first ++ "," ++ second) } = .ok applicability ∧
      ∀ source host, applicability.holds source host = true ↔
        (Admits parser.mode (some first) source ∨ Admits parser.mode (some second) source) ∨
          Admits parser.mode parser.hostFilter host
  joined_host : ∀ first second, ∃ applicability,
    Applicability.ofConfig { parser with hostFilter := some (first ++ "," ++ second) } = .ok applicability ∧
      ∀ source host, applicability.holds source host = true ↔
        Admits parser.mode parser.sourceFilter source ∨
          (Admits parser.mode (some first) host ∨ Admits parser.mode (some second) host)

/-- A list with a separator in it is not blank. -/
theorem not_missing_joined (first second : String) : ¬Missing (some (first ++ "," ++ second)) := by
  rw [Filter.missing_some_iff]
  intro hBlank
  apply Filter.comma_not_mem hBlank
  simp [String.toList_append]

variable {parser : ParserConfig}

/-- In every parser that is filtered by names, both filters are unions of their items. -/
theorem filtersByUnion_of_names (hMode : parser.mode = .names) : parser.FiltersByUnion := by
  refine ⟨?_, ?_, ?_, ?_, ?_, ?_, ?_⟩
  · intro text hMissing
    exact Filter.not_admits_of_missing hMissing parser.mode
  · rw [hMode]
    exact Filter.admits_append_iff
  · intro items others hRearranged
    rw [hMode]
    exact Filter.admits_rearranged_iff hRearranged
  · intro list value other hSame
    rw [hMode]
    exact Filter.admits_same_iff list hSame
  · intro strategy repository tokenizer built hBuild
    rw [hMode]
    exact Applicability.holds_iff_of_names hMode (Strategy.applicability_of_build hBuild)
  · intro first second
    obtain ⟨applicability, hOutcome, hHolds⟩ := Applicability.exists_holds_of_filtered
      { parser with sourceFilter := some (first ++ "," ++ second) } hMode
      fun hMissing => not_missing_joined first second hMissing.1
    refine ⟨applicability, hOutcome, fun source host => ?_⟩
    rw [hHolds, Filter.admits_append_iff, hMode]
  · intro first second
    obtain ⟨applicability, hOutcome, hHolds⟩ := Applicability.exists_holds_of_filtered
      { parser with hostFilter := some (first ++ "," ++ second) } hMode
      fun hMissing => not_missing_joined first second hMissing.2
    refine ⟨applicability, hOutcome, fun source host => ?_⟩
    rw [hHolds, Filter.admits_append_iff, hMode]

/-- A parser for two sources. The other filter has items, but none that is not blank. -/
def ofProxies : ParserConfig :=
  .withFilters { name := "proxy" } .names (some "nginx, haproxy") (some " , ")

/-- The parser applies to a source in another spelling, which one of the two items lets through. -/
theorem filtersByUnion_ofProxies :
    ofProxies.mode = .names ∧
      ∃ built, Strategy.default.build (.named "web") ofProxies Keywords.words = .ok built ∧
        built.appliesTo " HAProxy" "web-1" = true ∧ built.appliesTo "cron" "" = false ∧
        (Admits .names (some "nginx") " HAProxy" ∨ Admits .names (some " haproxy") " HAProxy") := by
  have hMode : ofProxies.mode = .names := rfl
  have hUnion := filtersByUnion_of_names hMode
  have hRun : ((Strategy.default.build (.named "web") ofProxies Keywords.words).toOption.map fun built =>
      (built.appliesTo " HAProxy" "web-1", built.appliesTo "cron" "")) = some (true, false) := by
    decide +kernel
  obtain ⟨built, hBuilt, hRun⟩ := Option.map_eq_some_iff.mp hRun
  obtain ⟨hApplies, hElsewhere⟩ := Prod.mk.inj hRun
  have hBuild := eq_ok_of_toOption hBuilt
  refine ⟨hMode, built, hBuild, hApplies, hElsewhere, ?_⟩
  rcases (hUnion.applies _ _ _ built hBuild _ _).mp hApplies with hSource | hHost
  · exact (hUnion.joined "nginx" " haproxy" " HAProxy").mp hSource
  · have hBlank : Missing (some " ") := Filter.missing_some_iff.mpr rfl
    rcases (hUnion.joined " " " " "web-1").mp hHost with hItem | hItem <;>
      exact absurd hItem (hUnion.missing _ hBlank _)

/-! ### Parsers that apply to nothing -/

/-- A parser that is accepted applies to some entries, and one that names neither a source nor a host is
refused. -/
structure RefusesIdle (parser : ParserConfig) : Prop where
  applies : ∀ applicability, Applicability.ofConfig parser = .ok applicability →
    ∃ source host, blank source = false ∧ blank host = false ∧ applicability.holds source host = true
  refused : ¬parser.NamesOrigin → Applicability.ofConfig parser = .error (.missingFilter parser.name)

/-- A parser that is to be filtered but has no filter is refused. -/
theorem ofConfig_of_unfiltered (hMode : parser.mode = .names) (h : parser.Unfiltered) :
    Applicability.ofConfig parser = .error (.missingFilter parser.name) := by
  obtain ⟨source, host, -, -, hOutcome⟩ := Applicability.exists_ofConfig_names hMode
  rwa [if_pos h] at hOutcome

/-- The source or the host that is named is one to which the parser applies. -/
theorem NamesOrigin.exists_holds (hMode : parser.mode = .names) (h : parser.NamesOrigin) :
    ∃ applicability, Applicability.ofConfig parser = .ok applicability ∧
      ∃ source host, blank source = false ∧ blank host = false ∧ applicability.holds source host = true := by
  obtain ⟨applicability, hOutcome, hHolds⟩ :=
    Applicability.exists_holds_of_filtered parser hMode h.not_unfiltered
  refine ⟨applicability, hOutcome, ?_⟩
  rcases h with hNames | hNames
  · obtain ⟨source, hSource, hAdmits⟩ := Filter.exists_admits_of_namesSome hNames
    exact ⟨source, "web-1", hSource, rfl, (hHolds _ _).mpr (.inl hAdmits)⟩
  · obtain ⟨host, hHost, hAdmits⟩ := Filter.exists_admits_of_namesSome hNames
    exact ⟨"nginx", host, rfl, hHost, (hHolds _ _).mpr (.inr hAdmits)⟩

/-- Separators and white space are a filter, but let nothing through. -/
theorem exists_never_holds (hMode : parser.mode = .names) (hNames : ¬parser.NamesOrigin)
    (hFiltered : ¬parser.Unfiltered) :
    ∃ applicability, Applicability.ofConfig parser = .ok applicability ∧
      ∀ source host, applicability.holds source host = false := by
  obtain ⟨applicability, hOutcome, hHolds⟩ :=
    Applicability.exists_holds_of_filtered parser hMode hFiltered
  refine ⟨applicability, hOutcome, fun source host => ?_⟩
  rw [Bool.eq_false_iff, ne_eq, hHolds]
  rintro (hSource | hHost)
  · exact hNames (.inl (Filter.namesSome_of_admits hSource))
  · exact hNames (.inr (Filter.namesSome_of_admits hHost))

/-- A parser that is filtered by names applies to something or is refused, unless its filters are made of
separators and white space: then it is accepted and applies to no entry. -/
theorem refusesIdle_iff_of_names (hMode : parser.mode = .names) :
    (parser.RefusesIdle ↔ parser.NamesOrigin ∨ parser.Unfiltered) ∧
      (parser.NamesOrigin → ∃ applicability, Applicability.ofConfig parser = .ok applicability ∧
        ∃ source host, blank source = false ∧ blank host = false ∧ applicability.holds source host = true) ∧
      (parser.Unfiltered → Applicability.ofConfig parser = .error (.missingFilter parser.name)) ∧
      (¬parser.NamesOrigin → ¬parser.Unfiltered →
        ∃ applicability, Applicability.ofConfig parser = .ok applicability ∧
          ∀ source host, applicability.holds source host = false) := by
  refine ⟨⟨fun hRefuses => ?_, ?_⟩, NamesOrigin.exists_holds hMode, ofConfig_of_unfiltered hMode,
    exists_never_holds hMode⟩
  · by_contra hNeither
    obtain ⟨hNames, hFiltered⟩ := not_or.mp hNeither
    obtain ⟨applicability, hOutcome, -⟩ := exists_never_holds hMode hNames hFiltered
    cases (hRefuses.refused hNames).symm.trans hOutcome
  · rintro (hNames | hUnfiltered)
    · refine ⟨?_, fun hNone => absurd hNames hNone⟩
      obtain ⟨made, hOutcome, hSome⟩ := hNames.exists_holds hMode
      rintro applicability hSame
      obtain rfl := Except.ok.inj (hOutcome.symm.trans hSame)
      exact hSome
    · have hRefused := ofConfig_of_unfiltered hMode hUnfiltered
      refine ⟨?_, fun _ => hRefused⟩
      intro applicability hOutcome
      cases hRefused.symm.trans hOutcome

/-- The parser that names two sources applies to something, though its other filter names nothing. -/
theorem refusesIdle_ofProxies : ofProxies.mode = .names ∧ ofProxies.NamesOrigin ∧ ofProxies.RefusesIdle := by
  have hMode : ofProxies.mode = .names := rfl
  have hNames : ofProxies.NamesOrigin := .inl ⟨_, rfl, "nginx".toList, by decide, by decide⟩
  exact ⟨hMode, hNames, (refusesIdle_iff_of_names hMode).1.mpr (.inl hNames)⟩

/-- A parser of which the filter is a separator alone. -/
def ofSeparator : ParserConfig :=
  .withFilters { name := "p" } .names (some ",") none

/-- Such a parser is accepted, and applies to no entry. -/
theorem not_refusesIdle_separator :
    (∃ applicability, Applicability.ofConfig ofSeparator = .ok applicability ∧
      ∀ source host, applicability.holds source host = false) ∧
        ¬ofSeparator.RefusesIdle := by
  have hItems : ∀ item ∈ Text.split [','] ",".toList, Text.isBlank item = true := by decide
  have hNames : ¬ofSeparator.NamesOrigin := by
    rintro (⟨list, ⟨⟩, item, hItem, hSome⟩ | ⟨list, ⟨⟩, -⟩)
    rw [hItems item hItem] at hSome
    cases hSome
  obtain ⟨applicability, hOutcome, hNever⟩ := exists_never_holds rfl hNames (by decide)
  refine ⟨⟨applicability, hOutcome, hNever⟩, fun hRefuses => ?_⟩
  obtain ⟨source, host, -, -, hHolds⟩ := hRefuses.applies applicability hOutcome
  rw [hNever] at hHolds
  cases hHolds

end ParserConfig
end LogIngest

import LogIngest.Proofs.Parser.Stages
import LogIngest.Repository

/-!
Where entries go when a repository gets another parser. Main statement: the new parser gets the entries
that it applies to and no parser before it does, and all others go where they went without it.
-/

namespace LogIngest

/-- A parser is put at a place among those of a configuration. -/
def RepositoryConfig.insertParser (config : RepositoryConfig) (index : Nat) (parser : ParserConfig) :
    RepositoryConfig :=
  { config with parsers := config.parsers.insertIdx index parser }

/-- The name and the budget of a repository are all that a core has of it. -/
theorem ParserCore.ofConfig_otherParsers (repository : RepositoryConfig) (others : List ParserConfig)
    (parser : ParserConfig) (kind : String) (tokenizer : Tokenizer) :
    ofConfig { repository with parsers := others } parser kind tokenizer =
      ofConfig repository parser kind tokenizer :=
  rfl

theorem Strategy.build_otherParsers (strategy : Strategy) (repository : RepositoryConfig)
    (others : List ParserConfig) (parser : ParserConfig) (tokenizer : Tokenizer) :
    strategy.build { repository with parsers := others } parser tokenizer =
      strategy.build repository parser tokenizer := by
  cases strategy <;>
    simp only [build, Delimited.build, Matching.build, StringHints.build,
      ParserCore.ofConfig_otherParsers]

theorem Strategy.applicability_of_build {strategy : Strategy} {repository : RepositoryConfig}
    {parser : ParserConfig} {tokenizer : Tokenizer} {built : EntryParser}
    (h : strategy.build repository parser tokenizer = .ok built) :
    Applicability.ofConfig parser = .ok built.core.applicability := by
  have hCore : ∃ kind, ParserCore.ofConfig repository parser kind tokenizer = .ok built.core := by
    cases strategy with
    | default =>
        obtain ⟨core, hCore, rfl⟩ := map_eq_ok h
        exact ⟨_, hCore⟩
    | delimited =>
        obtain ⟨format, core, -, hCore, rfl⟩ := build_delimited_eq_ok_iff.mp h
        exact ⟨_, hCore⟩
    | regex =>
        obtain ⟨format, core, -, hCore, rfl⟩ := build_regex_eq_ok_iff.mp h
        exact ⟨_, hCore⟩
    | json =>
        obtain ⟨hints, core, -, hCore, rfl⟩ := build_json_eq_ok_iff.mp h
        exact ⟨_, hCore⟩
  obtain ⟨kind, hCore⟩ := hCore
  obtain ⟨applicability, hApplicability, hCore⟩ := bind_eq_ok hCore
  rw [hApplicability, ← Except.ok.inj hCore]

namespace Registry

/-- A parser of a strategy that needs no registration applies to the entries that its filters name. -/
theorem applicability_of_build {registry : Registry} {repository : RepositoryConfig}
    {parser : ParserConfig} {built : EntryParser} (h : registry.build repository parser = .ok built)
    (hExtension : registry.extension? parser.strategy = none) :
    Applicability.ofConfig parser = .ok built.core.applicability := by
  simp only [build, hExtension] at h
  split at h
  · exact Strategy.applicability_of_build h
  · cases h

/-- What a registered strategy makes of a parser does not depend on the parsers around it. -/
def IgnoresNeighbours (registry : Registry) : Prop :=
  ∀ id constructor, registry.extensions.get? id = some constructor →
    ∀ (repository : RepositoryConfig) (others : List ParserConfig) (parser : ParserConfig),
      constructor { repository with parsers := others } parser registry.tokenizer =
        constructor repository parser registry.tokenizer

theorem ignoresNeighbours_of_empty {registry : Registry} (h : registry.extensions = ∅) :
    registry.IgnoresNeighbours := by
  intro id constructor hFound
  rw [h] at hFound
  cases hFound

theorem IgnoresNeighbours.build_eq {registry : Registry} (h : registry.IgnoresNeighbours)
    (repository : RepositoryConfig) (others : List ParserConfig) (parser : ParserConfig) :
    registry.build { repository with parsers := others } parser = registry.build repository parser := by
  unfold build
  cases hExtension : registry.extension? parser.strategy with
  | some constructor =>
      simp only [h _ constructor hExtension repository others parser]
  | none => simp only [Strategy.build_otherParsers]

end Registry

/-- A list with something put at the place where it is cut. -/
theorem insertIdx_append_length {α : Type} (before after : List α) (a : α) :
    (before ++ after).insertIdx before.length a = before ++ a :: after := by
  induction before with
  | nil => rfl
  | cons b before ih => simpa using ih

namespace Repository

/-- The place of the parser that entries of a source and a host go to; none for the fallback. -/
def place? (repository : Repository) (source host : String) : Option Nat :=
  repository.parsers.findIdx? (·.appliesTo source host)

variable {registry : Registry} {config : RepositoryConfig} {index : Nat} {parser : ParserConfig}
  {original enlarged : Repository} {inserted : EntryParser} {before after : List EntryParser}
  {source host : String}

theorem select_eq_getD (repository : Repository) (source host : String) :
    repository.select source host =
      ((repository.place? source host).bind (repository.parsers[·]?)).getD repository.fallback := by
  unfold select place?
  congr 1
  induction repository.parsers with
  | nil => rfl
  | cons first rest ih =>
      rw [List.find?_cons, List.findIdx?_cons]
      by_cases hApplies : first.appliesTo source host = true
      · simp [hApplies]
      · simp only [hApplies, Bool.false_eq_true, if_false, ih, Option.bind_map]
        rfl

theorem place?_eq_some_length_iff {repository : Repository}
    (h : repository.parsers = before ++ inserted :: after) :
    repository.place? source host = some before.length ↔
      inserted.appliesTo source host = true ∧
        ∀ earlier ∈ before, earlier.appliesTo source host = false := by
  rw [place?, h, List.findIdx?_eq_some_iff_getElem]
  constructor
  · rintro ⟨_, hApplies, hEarlier⟩
    refine ⟨by simpa using hApplies, ?_⟩
    intro earlier hMem
    obtain ⟨place, hPlace, rfl⟩ := List.getElem_of_mem hMem
    simpa [List.getElem_append_left hPlace] using hEarlier place hPlace
  · rintro ⟨hApplies, hEarlier⟩
    refine ⟨by simp, by simpa using hApplies, ?_⟩
    intro place hPlace
    rw [List.getElem_append_left hPlace, hEarlier _ (List.getElem_mem hPlace)]
    exact Bool.false_ne_true

/-- Entries that do not go to a parser go where they go without it. -/
theorem select_eq_of_place?_ne (hOriginal : original.parsers = before ++ after)
    (hEnlarged : enlarged.parsers = before ++ inserted :: after)
    (hFallback : enlarged.fallback = original.fallback)
    (hPlace : enlarged.place? source host ≠ some before.length) :
    enlarged.select source host = original.select source host := by
  rw [select, select, hFallback, hOriginal, hEnlarged, List.find?_append, List.find?_append,
    List.find?_cons]
  cases hBefore : before.find? (·.appliesTo source host) with
  | some earlier => rfl
  | none =>
      have hNot : inserted.appliesTo source host = false := by
        rw [← Bool.not_eq_true]
        intro hApplies
        refine hPlace ((place?_eq_some_length_iff hEnlarged).mpr ⟨hApplies, ?_⟩)
        simpa using hBefore
      simp [hNot]

/-- The parsers of a repository are built one by one, each from its configuration. -/
theorem parsers_of_build {repository : Repository} (h : build registry config = .ok repository) :
    config.parsers.mapM (registry.build config) = .ok repository.parsers ∧
      repository.fallback = registry.fallback config.name config.maxKeywords := by
  obtain ⟨parsers, hParsers, h⟩ := bind_eq_ok h
  obtain rfl := Except.ok.inj h
  exact ⟨hParsers, rfl⟩

/-- Another parser gets the entries that it applies to and no parser before it does. All other entries go
to the parser they went to without it, or again to none, and what becomes of them is the same. -/
theorem routing_of_insertParser (hIndex : index ≤ config.parsers.length)
    (hOriginal : build registry config = .ok original)
    (hEnlarged : build registry (config.insertParser index parser) = .ok enlarged)
    (entry : RawEntry) :
    ∃ inserted, registry.build (config.insertParser index parser) parser = .ok inserted ∧
      enlarged.parsers[index]? = some inserted ∧
      (registry.extension? parser.strategy = none →
        Applicability.ofConfig parser = .ok inserted.core.applicability) ∧
      (enlarged.place? entry.source entry.host = some index ↔
        inserted.appliesTo entry.source entry.host = true ∧
          ∀ earlier ∈ enlarged.parsers.take index,
            earlier.appliesTo entry.source entry.host = false) ∧
      (enlarged.place? entry.source entry.host = some index →
        enlarged.select entry.source entry.host = inserted) ∧
      (registry.IgnoresNeighbours → enlarged.place? entry.source entry.host ≠ some index →
        enlarged.select entry.source entry.host = original.select entry.source entry.host ∧
          enlarged.parse entry = original.parse entry) := by
  obtain ⟨hParsers, hFallback⟩ := parsers_of_build hOriginal
  obtain ⟨hMore, hSameFallback⟩ := parsers_of_build hEnlarged
  -- the configurations are cut where the parser is put, and so is what they build
  obtain ⟨front, back, hCut, hFront⟩ : ∃ front back, config.parsers = front ++ back ∧
      front.length = index :=
    ⟨_, _, (List.take_append_drop index config.parsers).symm, List.length_take_of_le hIndex⟩
  have hPut : (config.insertParser index parser).parsers = front ++ parser :: back := by
    rw [RepositoryConfig.insertParser, hCut, ← hFront, insertIdx_append_length]
  rw [hPut, mapM_append_eq_ok_iff] at hMore
  obtain ⟨before, rest, hBefore, hRest, hBuilt⟩ := hMore
  obtain ⟨inserted, after, hInserted, hAfter, rfl⟩ := mapM_cons_eq_ok_iff.mp hRest
  have hLength : before.length = index :=
    (forall₂_of_mapM_eq_ok hBefore).length_eq.symm.trans hFront
  obtain rfl := hLength
  have hHere : enlarged.parsers[before.length]? = some inserted := by simp [← hBuilt]
  refine ⟨inserted, hInserted, hHere, Registry.applicability_of_build hInserted, ?_, ?_, ?_⟩
  · simpa [← hBuilt] using place?_eq_some_length_iff hBuilt.symm
  · intro hPlace
    rw [select_eq_getD, hPlace, Option.bind_some, hHere, Option.getD_some]
  · intro hIgnores hPlace
    have hSame : registry.build (config.insertParser before.length parser) = registry.build config :=
      funext (hIgnores.build_eq config _)
    rw [hSame] at hBefore hAfter
    rw [hCut, mapM_append_eq_ok_iff] at hParsers
    obtain ⟨first, second, hFirst, hSecond, hOriginalParsers⟩ := hParsers
    obtain rfl := Except.ok.inj (hFirst.symm.trans hBefore)
    obtain rfl := Except.ok.inj (hSecond.symm.trans hAfter)
    have hSelect := select_eq_of_place?_ne hOriginalParsers.symm hBuilt.symm
      (hSameFallback.trans hFallback.symm) hPlace
    exact ⟨hSelect, by rw [parse, parse, hSelect]⟩

end Repository

/-- A repository whose parsers apply to sources by their names. -/
def RepositoryConfig.byName : RepositoryConfig where
  name := "web"
  maxKeywords := standardBudget
  parsers := [
    .withFilters { name := "proxy" } .names (some "nginx, haproxy") none,
    .withFilters { name := "jobs" } .names (some "cron") none]

def RawEntry.fromProxy : RawEntry where
  timestamp := "2024-01-15T10:30:00.000Z"
  source := "nginx"
  host := "web-1"
  severity := "6"
  message := "GET 200"

/-- A parser of all entries goes between the two: what the first one applies to stays there. -/
theorem Repository.routing_of_insertParser_byName :
    ∃ original enlarged,
      build {} .byName = .ok original ∧
        build {} (RepositoryConfig.byName.insertParser 1 { name := "rest" }) = .ok enlarged ∧
        enlarged.place? "cron" "web-1" = some 1 ∧ enlarged.place? "nginx" "web-1" = some 0 ∧
        enlarged.parse .fromProxy = original.parse .fromProxy := by
  have hOriginal : (build {} .byName).toOption.isSome = true := by decide +kernel
  have hPlaces : (build {} (RepositoryConfig.byName.insertParser 1 { name := "rest" })).toOption.map
      (fun repository => (repository.place? "cron" "web-1", repository.place? "nginx" "web-1")) =
        some (some 1, some 0) := by
    decide +kernel
  obtain ⟨original, hOriginal⟩ := Option.isSome_iff_exists.mp hOriginal
  obtain ⟨enlarged, hEnlarged, hPlaces⟩ := Option.map_eq_some_iff.mp hPlaces
  obtain ⟨hHere, hBefore⟩ := Prod.mk.inj hPlaces
  have hBuild := eq_ok_of_toOption hOriginal
  have hBuildEnlarged := eq_ok_of_toOption hEnlarged
  obtain ⟨_, _, _, _, _, _, hElsewhere⟩ :=
    routing_of_insertParser (by decide) hBuild hBuildEnlarged .fromProxy
  refine ⟨original, enlarged, hBuild, hBuildEnlarged, hHere, hBefore, ?_⟩
  refine (hElsewhere (Registry.ignoresNeighbours_of_empty rfl) ?_).2
  intro hThere
  cases hThere.symm.trans hBefore

end LogIngest

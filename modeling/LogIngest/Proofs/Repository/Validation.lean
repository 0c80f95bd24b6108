import LogIngest.CommandLine.Run
import LogIngest.Pool.Basic
import LogIngest.Proofs.Parser.Registration
import LogIngest.Proofs.Repository.Routing

/-!
Validation and start. A validation looks at every parser of a configuration, while a repository and a pool
stop at the first one that cannot be built. Main statement: unless the program ends while a parser is built, both
start exactly where a validation finds no error, and otherwise are refused for the first error it finds; so the
command that validates a configuration succeeds exactly where both start. What a validation lists are the kinds
of the parsers of the repository, and their names unless a registered strategy gives its parsers other ones.
-/

namespace LogIngest

/-- An outcome is reported exactly if it is no error at which the program ends. -/
theorem SetupError.settle_eq_ok_iff {α : Type} {outcome settled : Except SetupError α} :
    settle outcome = .ok settled ↔ outcome = settled ∧ ∀ error, outcome = .error error → error.stop? = none := by
  cases outcome with
  | ok a => simp [settle]
  | error error => cases hStop : error.stop? <;> simp [settle, hStop]

namespace Registry

variable {registry : Registry} {config : RepositoryConfig}

/-- No parser of a configuration ends the program while it is built. -/
def Completes (registry : Registry) (config : RepositoryConfig) : Prop :=
  ∀ parser ∈ config.parsers, ∀ error, registry.build config parser = .error error → error.stop? = none

/-- The registered strategies of a configuration give their parsers the names that are configured. -/
def NamesAsConfigured (registry : Registry) (config : RepositoryConfig) : Prop :=
  ∀ parser ∈ config.parsers, ∀ constructor, registry.extension? parser.strategy = some constructor →
    ∀ built, constructor config parser registry.tokenizer = .ok built → built.name = parser.name

/-- What a validation finds decides whether something starts: it does if there is no error, and otherwise is
refused for the first one. -/
structure Decides {α : Type} (items : List (String × Except SetupError String))
    (start : Except SetupError α) : Prop where
  starts_iff : (∃ a, start = .ok a) ↔ ∀ item ∈ items, item.2.isOk = true
  refused_iff : ∀ error, start = .error error ↔ FirstFailure (items.map Prod.snd) error

/-- A validation has one item for each parser, in their order, and agrees with the start of a repository and
of a pool. The parsers of the repository are those that are built, so they have the names that these give
themselves, and they have the kinds that are listed. The names that are listed are theirs as well exactly if
every registered strategy names its parsers as they are configured. -/
structure Agrees (registry : Registry) (config : RepositoryConfig)
    (items : List (String × Except SetupError String)) : Prop where
  listed : items.map Prod.fst = config.parsers.map ParserConfig.name
  repository : Decides items (Repository.build registry config)
  pool : ∀ settings, Decides items (Pool.build registry config settings)
  built : ∀ repository, Repository.build registry config = .ok repository →
    List.Forall₂ (fun parser built => registry.build config parser = .ok built)
      config.parsers repository.parsers
  kinds : ∀ repository, Repository.build registry config = .ok repository →
    items.map Prod.snd = (repository.parsers.map EntryParser.kind).map .ok
  names_iff : ∀ repository, Repository.build registry config = .ok repository →
    (items.map Prod.fst = repository.parsers.map EntryParser.name ↔ registry.NamesAsConfigured config)

/-! ### What is listed -/

theorem validate_map_snd (registry : Registry) (config : RepositoryConfig) :
    (registry.validate config).map Prod.snd =
      (config.parsers.map (registry.build config)).map (Except.map EntryParser.kind) := by
  rw [validate, List.map_map, List.map_map]
  rfl

theorem validate_map_fst (registry : Registry) (config : RepositoryConfig) :
    (registry.validate config).map Prod.fst = config.parsers.map ParserConfig.name := by
  rw [validate, List.map_map]
  rfl

/-- A validation is carried out exactly if no parser ends the program, and then lists every outcome. -/
theorem validation_eq_ok_iff {items : List (String × Except SetupError String)} :
    registry.validation config = .ok items ↔ registry.validate config = items ∧ registry.Completes config := by
  have hItem {name : String} {outcome : Except SetupError String} {other : String × Except SetupError String} :
      (SetupError.settle outcome).map (fun outcome => (name, outcome)) = .ok other ↔
        other = (name, outcome) ∧ ∀ error, outcome = .error error → error.stop? = none := by
    simp only [map_eq_ok_iff, SetupError.settle_eq_ok_iff]
    exact ⟨fun ⟨_, ⟨hOutcome, hStop⟩, hOther⟩ => ⟨hOther ▸ hOutcome ▸ rfl, hStop⟩,
      fun ⟨hOther, hStop⟩ => ⟨outcome, ⟨rfl, hStop⟩, hOther.symm⟩⟩
  have hCompletes : (∃ others, registry.validation config = .ok others) ↔ registry.Completes config := by
    rw [validation, exists_mapM_eq_ok_iff, validate, List.forall_mem_map]
    refine forall₂_congr fun parser _ => (exists_congr fun _ => hItem).trans ?_
    rw [exists_eq_left]
    cases registry.build config parser <;> simp [Except.map]
  have hSame {others : List (String × Except SetupError String)}
      (h : registry.validation config = .ok others) : others = registry.validate config := by
    have hMap := (map_eq_iff_of_mapM_eq_ok (k := id) (g := id) h).mpr fun item _ other hOther =>
      (hItem.mp hOther).1
    rwa [List.map_id, List.map_id] at hMap
  rw [← hCompletes]
  constructor
  · intro h
    exact ⟨(hSame h).symm, items, h⟩
  · rintro ⟨rfl, others, h⟩
    rw [h, hSame h]

/-- A repository that starts has parsers that can be built. -/
theorem completes_of_build {repository : Repository}
    (hBuild : Repository.build registry config = .ok repository) : registry.Completes config := by
  intro parser hParser error hError
  obtain ⟨built, hBuilt⟩ :=
    exists_mapM_eq_ok_iff.mp ⟨_, (Repository.parsers_of_build hBuild).1⟩ parser hParser
  cases hError.symm.trans hBuilt

/-! ### Names -/

/-- The parsers of a configuration have their configured names exactly if the registered strategies see to it. -/
theorem forall_name_iff : (∀ parser ∈ config.parsers, ∀ built, registry.build config parser = .ok built →
    built.name = parser.name) ↔ registry.NamesAsConfigured config := by
  refine forall₂_congr fun parser _ => ?_
  cases hFound : registry.extension? parser.strategy with
  | some constructor =>
      rw [build_of_extension? hFound]
      constructor
      · rintro h _ ⟨⟩ built hBuilt
        exact h built (by rw [hBuilt]; rfl)
      · intro h built hBuilt
        exact h constructor rfl built (mapError_eq_ok hBuilt)
  | none =>
      refine ⟨fun _ => nofun, fun _ built hBuild => ?_⟩
      simp only [build, hFound] at hBuild
      split at hBuild
      · exact (Strategy.conforms_of_build hBuild).settings.name
      · cases hBuild

/-! ### Start -/

theorem Decides.map {α β : Type} {items : List (String × Except SetupError String)}
    {start : Except SetupError α} (h : Decides items start) (g : α → β) :
    Decides items (start.map g) := by
  cases start with
  | error error =>
      refine ⟨?_, fun other => ?_⟩
      · rw [← h.starts_iff]
        exact ⟨nofun, nofun⟩
      · rw [← h.refused_iff, Except.map, Except.error.injEq, Except.error.injEq]
  | ok a =>
      refine ⟨?_, fun other => ?_⟩
      · rw [← h.starts_iff]
        exact ⟨fun _ => ⟨a, rfl⟩, fun _ => ⟨g a, rfl⟩⟩
      · rw [← h.refused_iff]
        exact ⟨nofun, nofun⟩

/-- The outcomes for all parsers decide whether they can be built one after the other. -/
theorem decides_parsers (registry : Registry) (config : RepositoryConfig) :
    Decides (registry.validate config) (config.parsers.mapM (registry.build config)) := by
  refine ⟨?_, fun error => ?_⟩
  · rw [exists_mapM_eq_ok_iff, validate, List.forall_mem_map]
    refine forall₂_congr fun parser _ => ?_
    cases registry.build config parser with
    | error error => exact ⟨nofun, nofun⟩
    | ok built => exact ⟨fun _ => rfl, fun _ => ⟨built, rfl⟩⟩
  · rw [validate_map_snd, firstFailure_map_iff, mapM_eq_error_iff]

theorem agrees (registry : Registry) (config : RepositoryConfig) :
    registry.Agrees config (registry.validate config) := by
  have hRepository : Decides (registry.validate config) (Repository.build registry config) :=
    (decides_parsers registry config).map _
  have hParsers {repository : Repository} (hBuild : Repository.build registry config = .ok repository) :
      config.parsers.mapM (registry.build config) = .ok repository.parsers :=
    (Repository.parsers_of_build hBuild).1
  refine ⟨validate_map_fst registry config, hRepository, fun settings => hRepository.map _,
    fun repository hBuild => forall₂_of_mapM_eq_ok (hParsers hBuild), ?_, ?_⟩
  · intro repository hBuild
    rw [validate_map_snd, List.map_map, List.map_map]
    refine ((map_eq_iff_of_mapM_eq_ok (hParsers hBuild)).mpr ?_).symm
    intro parser _ built hBuilt
    rw [Function.comp_apply, Function.comp_apply, hBuilt]
    rfl
  · intro repository hBuild
    rw [validate_map_fst, ← forall_name_iff, eq_comm]
    exact map_eq_iff_of_mapM_eq_ok (hParsers hBuild)

end Registry

namespace CommandLine.Validate

/-- The command that validates a configuration succeeds exactly on one that can be loaded and with which a
repository starts, and so does a pool. If no parser fails, nothing fails later. -/
structure Agrees (path : String) (environment : Environment) : Prop where
  repository : (run path environment).failure = none ↔
    ∃ config repository, environment.config path = .ok config ∧
      Repository.build {} config = .ok repository
  pool : ∀ settings, (run path environment).failure = none ↔
    ∃ config pool, environment.config path = .ok config ∧ Pool.build {} config settings = .ok pool
  rebuilt : ∀ config, environment.config path = .ok config → Registry.Completes {} config →
    ∀ error, (run path environment).failure ≠ some (.ofSetup error)

variable {config : RepositoryConfig}

theorem broken_eq_zero_iff (items : List (String × Except SetupError String)) :
    (items.filter fun item => !item.2.isOk).length = 0 ↔ ∀ item ∈ items, item.2.isOk = true := by
  simp [List.filter_eq_nil_iff]

theorem failure_check_of_ok {repository : Repository}
    (hBuild : Repository.build {} config = .ok repository) : (check config).failure = none := by
  have hFine := (Registry.agrees {} config).repository.starts_iff.mp ⟨repository, hBuild⟩
  have hNone := (broken_eq_zero_iff (Registry.validate {} config)).mpr hFine
  have hItems := Registry.validation_eq_ok_iff.mpr ⟨rfl, Registry.completes_of_build hBuild⟩
  simp only [check, hItems, hNone, hBuild]
  rfl

/-- Where no repository starts, the command fails: for the parsers that cannot be built, unless the program ends
with one of them. -/
theorem failure_check_of_error {error : SetupError} (hBuild : Repository.build {} config = .error error) :
    (Registry.Completes {} config →
      ∃ broken, (check config).failure = some (.brokenParsers broken config.parsers.length)) ∧
      (check config).failure ≠ none := by
  have hSome : ((Registry.validate {} config).filter fun item => !item.2.isOk).length ≠ 0 := by
    intro hNone
    have hFine := (broken_eq_zero_iff (Registry.validate {} config)).mp hNone
    obtain ⟨repository, hStarts⟩ := (Registry.agrees {} config).repository.starts_iff.mpr hFine
    cases hBuild.symm.trans hStarts
  have hBroken {items : List (String × Except SetupError String)}
      (h : Registry.validation {} config = .ok items) :
      ∃ broken, (check config).failure = some (.brokenParsers broken config.parsers.length) := by
    obtain ⟨rfl, -⟩ := Registry.validation_eq_ok_iff.mp h
    refine ⟨((Registry.validate {} config).filter fun item => !item.2.isOk).length, ?_⟩
    simp only [check, h, if_pos (Nat.pos_of_ne_zero hSome)]
  refine ⟨fun hCompletes => hBroken (Registry.validation_eq_ok_iff.mpr ⟨rfl, hCompletes⟩), ?_⟩
  cases h : Registry.validation {} config with
  | error fault =>
      simp only [check, h]
      nofun
  | ok items =>
      obtain ⟨broken, hFailure⟩ := hBroken h
      rw [hFailure]
      nofun

theorem failure_run_eq_none_iff (path : String) (environment : Environment) :
    (run path environment).failure = none ↔
      ∃ config repository, environment.config path = .ok config ∧
        Repository.build {} config = .ok repository := by
  cases hLoad : environment.config path with
  | error failure =>
      simp only [run, hLoad, Transcript.failed]
      exact ⟨nofun, nofun⟩
  | ok config =>
      simp only [run, hLoad]
      cases hBuild : Repository.build {} config with
      | ok repository =>
          exact ⟨fun _ => ⟨config, repository, rfl, hBuild⟩, fun _ => failure_check_of_ok hBuild⟩
      | error error =>
          refine ⟨fun h => absurd h (failure_check_of_error hBuild).2, ?_⟩
          rintro ⟨_, repository, ⟨⟩, hStarts⟩
          cases hBuild.symm.trans hStarts

/-- Parsers that could all be built can be built once more. -/
theorem failure_check_ne_ofSetup (hCompletes : Registry.Completes {} config) (error : SetupError) :
    (check config).failure ≠ some (.ofSetup error) := by
  cases hBuild : Repository.build {} config with
  | ok repository =>
      rw [failure_check_of_ok hBuild]
      nofun
  | error other =>
      obtain ⟨broken, hFailure⟩ := (failure_check_of_error hBuild).1 hCompletes
      rw [hFailure, Failure.ofSetup]
      cases error.stop? <;> nofun

theorem agrees (path : String) (environment : Environment) : Agrees path environment := by
  refine ⟨failure_run_eq_none_iff path environment, fun settings => ?_, ?_⟩
  · rw [failure_run_eq_none_iff]
    refine exists_congr fun config => ?_
    have hAgrees := Registry.agrees {} config
    have hStarts := hAgrees.repository.starts_iff.trans (hAgrees.pool settings).starts_iff.symm
    rw [exists_and_left, exists_and_left, hStarts]
  · intro config hLoad hCompletes error
    simp only [run, hLoad]
    exact failure_check_ne_ofSetup hCompletes error

end CommandLine.Validate

/-- For every configuration, whatever is registered, unless a parser ends the program while it is built: a
validation is carried out and agrees with the start of a repository and of a pool. The command that validates
agrees with both where nothing is registered. -/
theorem Registry.validation_decides_start :
    (∀ (registry : Registry) (config : RepositoryConfig), registry.Completes config →
      ∃ items, registry.validation config = .ok items ∧ registry.Agrees config items) ∧
      ∀ path environment, CommandLine.Validate.Agrees path environment :=
  ⟨fun registry config hCompletes =>
      ⟨_, validation_eq_ok_iff.mpr ⟨rfl, hCompletes⟩, agrees registry config⟩,
    CommandLine.Validate.agrees⟩

/-- A strategy that takes the number of bytes of a message for a field. -/
def Constructor.measuring : Constructor := fun repository parser tokenizer =>
  (ParserCore.ofConfig repository parser "acme" tokenizer).map fun core =>
    { core
      extract := fun message draft =>
        .ok (draft.store "length" (.long (Int64.ofNat message.utf8ByteSize))) }

/-- One parser of a registered strategy and one of a strategy that needs no registration. -/
def RepositoryConfig.measured : RepositoryConfig where
  name := "web"
  maxKeywords := standardBudget
  parsers := [{ name := "sizes", strategy := " acme" }, { name := "api", strategy := "json" }]

theorem Registry.validation_decides_start_measured :
    Completes (register {} "acme" .measuring) .measured ∧
    ∃ repository,
      Repository.build (register {} "acme" .measuring) .measured = .ok repository ∧
      validation (register {} "acme" .measuring) .measured =
        .ok [("sizes", .ok "acme"), ("api", .ok "json")] ∧
      repository.parsers.map EntryParser.name = ["sizes", "api"] := by
  have hKinds : ((Repository.build (register {} "acme" .measuring) .measured).toOption.map
      fun repository => repository.parsers.map EntryParser.kind) = some ["acme", "json"] := by
    decide +kernel
  obtain ⟨repository, hBuilt, hKinds⟩ := Option.map_eq_some_iff.mp hKinds
  have hBuild := eq_ok_of_toOption hBuilt
  have hCompletes := completes_of_build hBuild
  obtain ⟨items, hItems, hAgrees⟩ := validation_decides_start.1 _ _ hCompletes
  have hPairs : items = [("sizes", .ok "acme"), ("api", .ok "json")] := by
    have hOutcomes := hAgrees.kinds repository hBuild
    rw [hKinds] at hOutcomes
    exact List.zip_of_prod hAgrees.listed hOutcomes
  have hNames : NamesAsConfigured (register {} "acme" .measuring) .measured := by
    intro parser _ constructor hFound built hBuilt
    rw [extension?_register] at hFound
    split at hFound
    · obtain rfl := Option.some.inj hFound
      obtain ⟨core, hCore, rfl⟩ := map_eq_ok hBuilt
      exact (ParserCore.configured_of_ofConfig hCore).name
    · cases hFound
  exact ⟨hCompletes, repository, hBuild, hPairs ▸ hItems,
    ((hAgrees.names_iff repository hBuild).mpr hNames).symm.trans hAgrees.listed⟩

/-- A strategy that gives its own name to the parsers that it builds. -/
def Constructor.selfNaming : Constructor := fun repository parser tokenizer =>
  (ParserCore.ofConfig repository { parser with name := "acme" } "acme" tokenizer).map EntryParser.passThrough

/-- A parser of a registered strategy. -/
def RepositoryConfig.registered : RepositoryConfig where
  name := "web"
  maxKeywords := standardBudget
  parsers := [{ name := "sizes", strategy := "acme" }]

/-- A parser of dates in a time zone whose four bytes do not fall into two halves. -/
def RepositoryConfig.zoned : RepositoryConfig where
  name := "web"
  maxKeywords := standardBudget
  parsers := [(({ name := "p", strategy := "delimited" } : ParserConfig).withProperty "delimiter" "|").withField
    (((({ name := "at", dataType := .date } : FieldConfig).withProperty "position" "1").withProperty
      "date_format" "yyyy").withProperty "date_timezone" "+0é0")]

/-- A repository starts without the names that its validation lists if a registered strategy names its parsers
itself, and not every configuration has a validation. -/
theorem Registry.names_differ_selfNaming :
    (∃ repository,
      Repository.build (register {} "acme" .selfNaming) .registered = .ok repository ∧
      validation (register {} "acme" .selfNaming) .registered = .ok [("sizes", .ok "acme")] ∧
      repository.parsers.map EntryParser.name = ["acme"]) ∧
    validation {} .zoned = .error .insideCharacter := by
  refine ⟨?_, by rfl⟩
  have hNames : ((Repository.build (register {} "acme" .selfNaming) .registered).toOption.map
      fun repository => repository.parsers.map EntryParser.name) = some ["acme"] := by
    decide +kernel
  obtain ⟨repository, hBuilt, hNames⟩ := Option.map_eq_some_iff.mp hNames
  exact ⟨repository, eq_ok_of_toOption hBuilt, by rfl, hNames⟩

end LogIngest

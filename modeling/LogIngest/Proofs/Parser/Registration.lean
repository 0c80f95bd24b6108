import LogIngest.Repository

/-!
What registering a strategy changes. Main statement: a strategy is found under the identifier it was
registered with, until another one takes its place, exactly when the identifier has no white space at its
ends; with white space there, registering changes nothing.
-/

namespace LogIngest.Registry

/-- Registers strategies one after another. -/
def registerAll (registry : Registry) (registrations : List (String × Constructor)) : Registry :=
  registrations.foldl (fun registry (id, constructor) => registry.register id constructor) registry

variable {registry other : Registry} {id : String} {constructor : Constructor}

@[simp] theorem register_tokenizer (registry : Registry) (id : String) (constructor : Constructor) :
    (registry.register id constructor).tokenizer = registry.tokenizer :=
  rfl

@[simp] theorem registerAll_tokenizer (registry : Registry)
    (registrations : List (String × Constructor)) :
    (registry.registerAll registrations).tokenizer = registry.tokenizer := by
  induction registrations generalizing registry with
  | nil => rfl
  | cons first rest ih => exact ih (registry.register first.1 first.2)

/-- Identifiers are stored as they are given, but without white space at their ends when asked for. -/
theorem extension?_register (registry : Registry) (id asked : String) (constructor : Constructor) :
    (registry.register id constructor).extension? asked =
      if trimmed asked = id then some constructor else registry.extension? asked :=
  Dictionary.get?_insert registry.extensions id (trimmed asked) constructor

theorem extension?_registerAll {asked : String} {registrations : List (String × Constructor)}
    (h : ∀ registration ∈ registrations, registration.1 ≠ trimmed asked) :
    (registry.registerAll registrations).extension? asked = registry.extension? asked := by
  induction registrations generalizing registry with
  | nil => rfl
  | cons first rest ih =>
      obtain ⟨hFirst, hRest⟩ := List.forall_mem_cons.mp h
      calc ((registry.register first.1 first.2).registerAll rest).extension? asked
          = (registry.register first.1 first.2).extension? asked := ih hRest
        _ = registry.extension? asked := by rw [extension?_register, if_neg hFirst.symm]

theorem build_of_extension? {parser : ParserConfig}
    (h : registry.extension? parser.strategy = some constructor) (repository : RepositoryConfig) :
    registry.build repository parser =
      (constructor repository parser registry.tokenizer).mapError
        (.instantiationFailed (trimmed parser.strategy)) := by
  simp only [build, h]

theorem build_congr {parser : ParserConfig} (hTokenizer : registry.tokenizer = other.tokenizer)
    (h : registry.extension? parser.strategy = other.extension? parser.strategy)
    (repository : RepositoryConfig) :
    registry.build repository parser = other.build repository parser := by
  simp only [build, h, hTokenizer]

/-- A strategy that is registered builds the parsers with its identifier, and fails to where its
constructor does, until another one is registered in its place; no other parser is built differently. -/
structure TakesEffect (registry : Registry) (id : String) (constructor : Constructor) : Prop where
  built : ∀ later : List (String × Constructor), (∀ registration ∈ later, registration.1 ≠ id) →
    ∀ repository parser, parser.strategy = id →
      ((registry.register id constructor).registerAll later).build repository parser =
        (constructor repository parser registry.tokenizer).mapError
          (.instantiationFailed (trimmed id))
  registered : (registry.register id constructor).isRegistered id = true
  others : ∀ repository parser, trimmed parser.strategy ≠ trimmed id →
    (registry.register id constructor).build repository parser = registry.build repository parser

theorem takesEffect_of_trimmed (h : trimmed id = id) (registry : Registry)
    (constructor : Constructor) : registry.TakesEffect id constructor := by
  have hFound : (registry.register id constructor).extension? id = some constructor := by
    rw [extension?_register, if_pos h]
  refine ⟨?_, ?_, ?_⟩
  · rintro later hLater repository parser rfl
    have hStill : ((registry.register parser.strategy constructor).registerAll later).extension?
        parser.strategy = some constructor :=
      (extension?_registerAll (h.symm ▸ hLater)).trans hFound
    simpa using build_of_extension? hStill repository
  · simp [isRegistered, hFound]
  · intro repository parser hOther
    refine build_congr (registry.register_tokenizer id constructor) ?_ repository
    rw [extension?_register, if_neg (h ▸ hOther)]

/-- No identifier that is asked for has white space at its ends. -/
theorem extension?_register_of_padded (h : trimmed id ≠ id) (registry : Registry)
    (constructor : Constructor) (asked : String) :
    (registry.register id constructor).extension? asked = registry.extension? asked := by
  rw [extension?_register, if_neg]
  rintro rfl
  exact h (trimmed_trimmed asked)

theorem build_register_of_padded (h : trimmed id ≠ id) (registry : Registry)
    (constructor : Constructor) (repository : RepositoryConfig) (parser : ParserConfig) :
    (registry.register id constructor).build repository parser = registry.build repository parser :=
  build_congr (registry.register_tokenizer id constructor)
    (extension?_register_of_padded h registry constructor parser.strategy) repository

theorem trimmed_of_takesEffect
    (h : ∀ constructor : Constructor, registry.TakesEffect id constructor) : trimmed id = id := by
  refine Decidable.byContradiction fun hPadded => ?_
  let parser : ParserConfig := { name := "", strategy := id }
  -- two strategies that fail with different errors cannot both build what was built before
  have hFails : ∀ reason : String, registry.build (.named "") parser =
      .error (.instantiationFailed (trimmed id) (.unsupportedOperation reason)) := by
    intro reason
    rw [← build_register_of_padded hPadded registry
      fun _ _ _ => .error (.unsupportedOperation reason)]
    exact (h fun _ _ _ => .error (.unsupportedOperation reason)).built [] nofun (.named "") parser rfl
  have hSame := (hFails "").symm.trans (hFails "-")
  simp at hSame

/-- Whatever was registered before, strategies take effect under an identifier exactly when it has no white
space at its ends. Under one that has, they change nothing. -/
theorem takesEffect_iff_trimmed (tokenizer : Tokenizer) (earlier : List (String × Constructor))
    (id : String) :
    ((∀ constructor, (registerAll { tokenizer } earlier).TakesEffect id constructor) ↔
        trimmed id = id) ∧
      (trimmed id ≠ id → ∀ constructor : Constructor,
        (∀ repository parser,
          ((registerAll { tokenizer } earlier).register id constructor).build repository parser =
            (registerAll { tokenizer } earlier).build repository parser) ∧
        ∀ asked, ((registerAll { tokenizer } earlier).register id constructor).isRegistered asked =
          (registerAll { tokenizer } earlier).isRegistered asked) := by
  refine ⟨⟨trimmed_of_takesEffect, fun h => takesEffect_of_trimmed h _⟩, ?_⟩
  intro hPadded constructor
  refine ⟨build_register_of_padded hPadded _ constructor, ?_⟩
  intro asked
  rw [isRegistered, isRegistered, extension?_register_of_padded hPadded]

/-- A strategy that keeps messages as they are, registered with white space around its identifier, is not
found under that identifier. -/
theorem not_takesEffect_padded :
    (register {} " acme " fun repository parser tokenizer =>
        Strategy.default.build repository parser tokenizer).isRegistered " acme " = false ∧
      ¬ TakesEffect {} " acme " fun repository parser tokenizer =>
        Strategy.default.build repository parser tokenizer := by
  have hMissing : (register {} " acme " fun repository parser tokenizer =>
      Strategy.default.build repository parser tokenizer).isRegistered " acme " = false := by
    decide +kernel
  refine ⟨hMissing, ?_⟩
  intro hEffect
  cases hMissing.symm.trans hEffect.registered

end LogIngest.Registry
